import SiteReader.Duration
import SiteReader.Header
import SiteReader.Text.Basic

/-!
# The policy of a gateway

Which hosts are out of bounds, which header fields cross the gateway in either direction, which ones are sent by
default, and how long and how far a fetch may go.
-/

namespace SiteReader.Gateway

structure Config where
  blockedHosts : List String
  /-- Tests for hosts in private ranges. -/
  privateHosts : List (String → Bool)
  /-- Names in lower case of the fields that callers may set. -/
  requestHeaders : List String
  /-- Names in lower case of the fields that are handed back. -/
  responseHeaders : List String
  defaultHeaders : Headers
  defaultTimeout : Duration
  maxRedirects : Int
  /-- Whether the addresses of hosts are looked up and checked as well. -/
  resolveHosts : Bool

namespace Config

/-- Whether a text starts with a second byte from 16 to 31 and a point. -/
def startsWithPrivateByte : List Char → Bool
  | a :: b :: '.' :: _ =>
    (a = '1' && '6'.toNat ≤ b.toNat && b.toNat ≤ '9'.toNat) || (a = '2' && Text.isAsciiDigit b) ||
      (a = '3' && (b = '0' || b = '1'))
  | _ => false

/-- Whether a host starts like an IPv4 address of the ranges 10/8, 192.168/16 and 172.16/12. -/
def isPrivateRange (host : String) : Bool :=
  let cs := host.toList
  "10.".toList.isPrefixOf cs || "192.168.".toList.isPrefixOf cs ||
    match Text.dropHead? "172.".toList cs with
    | some rest => startsWithPrivateByte rest
    | none => false

def defaultHeaderFields : Headers := [
  ("User-Agent", "Mozilla/5.0 (compatible; BookSourceProxy/1.0)"), ("Accept", "*/*"),
  ("Accept-Language", "zh-CN,zh;q=0.9,en;q=0.8"), ("Cache-Control", "no-cache"), ("Pragma", "no-cache")]

/-- The number of milliseconds that a fetch may take. -/
def usualTimeout : Int := 30000

end Config

/-- The policy that holds unless another one is asked for. -/
def Config.standard : Config where
  blockedHosts := ["localhost", "127.0.0.1", "0.0.0.0", "::1", "169.254.169.254", "metadata.google.internal"]
  privateHosts := [isPrivateRange]
  requestHeaders := ["accept", "accept-language", "authorization", "cache-control", "content-type", "cookie", "origin",
    "referer", "user-agent", "x-requested-with"]
  responseHeaders := ["content-type", "content-length", "content-encoding", "cache-control", "expires",
    "last-modified", "etag"]
  defaultHeaders := defaultHeaderFields
  defaultTimeout := .whole usualTimeout
  maxRedirects := 5
  resolveHosts := false

/-- Fields that let pages of any origin read an answer. -/
def corsHeaders : Headers := [
  ("Access-Control-Allow-Origin", "*"), ("Access-Control-Allow-Methods", "GET, POST, PUT, DELETE, OPTIONS"),
  ("Access-Control-Allow-Headers", "Content-Type, Authorization")]

/-- The status codes that send a client elsewhere. -/
def redirectStatuses : List Int := [301, 302, 303, 307, 308]

/-- Names in lower case of the fields that a caller's secrets are in. -/
def secretHeaders : List String := ["cookie", "authorization"]

end SiteReader.Gateway
