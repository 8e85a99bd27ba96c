import SiteReader.Directive.Relaxed
import SiteReader.Json.Reader
import SiteReader.Proofs.Address.Numeral
import SiteReader.Proofs.Text.Trim

/-!
# The grammar of JSON text

`Spelling` says which texts spell a value in JSON or in the relaxed dialect, which writes strings in single quotes too and
keys without quotes.  It knows no limit for integers; whether a reader with such a limit takes a value depends on the value
alone (`Part.Fits`).  The texts of one value may differ in white space, escapes and the way that numbers are written.
-/

namespace SiteReader.Json

open Ipv4 (Digits)

/-- JSON itself, or object literals as they are written by hand. -/
inductive Dialect where
  | strict | relaxed

/-- White space between tokens, of any length. -/
def Space (cs : List Char) : Prop :=
  ∀ c ∈ cs, isSpace c = true

instance (cs : List Char) : Decidable (Space cs) :=
  decidable_of_iff (cs.all isSpace = true) List.all_eq_true

/-! ### Strings -/

/-- The letters of escapes, and what they stand for. -/
def escapeLetters : List (Char × Char) :=
  [('"', '"'), ('\\', '\\'), ('/', '/'), ('b', '\x08'), ('f', '\x0c'), ('n', '\n'), ('r', '\r'), ('t', '\t')]

/-- An escape of JSON and its unit. -/
inductive Escape : Nat → List Char → Prop
  | letter {e c : Char} (h : (e, c) ∈ escapeLetters) : Escape c.toNat ['\\', e]
  | code {n : Nat} {ds : List Char} (h : Digits 16 ds n) (hl : ds.length = 4) : Escape n ('\\' :: 'u' :: ds)

/-- A unit as it is written in a string with these quotes. -/
inductive Piece : Char → Nat → List Char → Prop
  | raw {quote c : Char} (hc : 32 ≤ c.toNat) (hq : c ≠ quote) (hs : c ≠ '\\') : Piece quote c.toNat [c]
  | escape {quote : Char} {n : Nat} {cs : List Char} (h : Escape n cs) : Piece quote n cs
  | singleQuote : Piece '\'' '\''.toNat ['\\', '\'']

/-- Units one after the other. -/
inductive Pieces (quote : Char) : List Nat → List Char → Prop
  | nil : Pieces quote [] []
  | cons {n : Nat} {units : List Nat} {cs rest : List Char} (h : Piece quote n cs) (hr : Pieces quote units rest) :
      Pieces quote (n :: units) (cs ++ rest)

/-- A string in its quotes. -/
inductive StringText : Dialect → String → List Char → Prop
  | double {dialect : Dialect} {units : List Nat} {cs : List Char} (h : Pieces '"' units cs) :
      StringText dialect (String.ofList (joinUnits units)) ('"' :: (cs ++ ['"']))
  | single {units : List Nat} {cs : List Char} (h : Pieces '\'' units cs) :
      StringText .relaxed (String.ofList (joinUnits units)) ('\'' :: (cs ++ ['\'']))

/-- A word that needs no quotes as a key. -/
structure BareKey (cs : List Char) : Prop where
  ne_nil : cs ≠ []
  start : ∀ c, cs.head? = some c → Relaxed.isKeyStart c = true
  chars : ∀ c ∈ cs, Relaxed.isKeyChar c = true

inductive KeyText : Dialect → String → List Char → Prop
  | text {dialect : Dialect} {key : String} {cs : List Char} (h : StringText dialect key cs) : KeyText dialect key cs
  | bare {cs : List Char} (h : BareKey cs) : KeyText .relaxed (String.ofList cs) cs

/-! ### Numbers -/

/-- The digits of a whole number, which start with zero only if it is zero. -/
structure Whole (ds : List Char) (n : Nat) : Prop where
  digits : Digits 10 ds n
  ne_nil : ds ≠ []
  zero : ds.head? = some '0' → ds = ['0']

/-- The digits after the point, if there is one. -/
inductive Fraction : Option (List Char) → List Char → Prop
  | absent : Fraction none []
  | places {places : List Char} {n : Nat} (h : Digits 10 places n) (hne : places ≠ []) :
      Fraction (some places) ('.' :: places)

/-- The sign of an exponent; whether it is a minus. -/
inductive Sign : Bool → List Char → Prop
  | absent : Sign false []
  | plus : Sign false ['+']
  | minus : Sign true ['-']

inductive Exponent : Option Int → List Char → Prop
  | absent : Exponent none []
  | power {e : Char} {negative : Bool} {sign ds : List Char} {n : Nat} (he : e = 'e' ∨ e = 'E') (hs : Sign negative sign)
      (h : Digits 10 ds n) (hne : ds ≠ []) :
      Exponent (some (if negative then -Int.ofNat n else Int.ofNat n)) (e :: (sign ++ ds))

/-- The minus of a number below zero. -/
def minus (negative : Bool) : List Char :=
  if negative then ['-'] else []

/-- Integers are written without fraction and exponent, all other numbers with one of them at least. -/
inductive Number : Tree → List Char → Prop
  | integer {negative : Bool} {ds : List Char} {n : Nat} (h : Whole ds n) :
      Number (.integer (if negative then -Int.ofNat n else Int.ofNat n)) (minus negative ++ ds)
  | double {negative : Bool} {ds fraction exponent : List Char} {places? : Option (List Char)} {power? : Option Int}
      {whole n : Nat} (h : Whole ds whole) (hf : Fraction places? fraction) (he : Exponent power? exponent)
      (hn : Digits 10 (ds ++ places?.getD []) n) (hne : places?.isSome || power?.isSome) :
      Number (.double (.ofDecimal negative n (power?.getD 0 - Int.ofNat (places?.getD []).length)))
        (minus negative ++ (ds ++ (fraction ++ exponent)))

/-! ### Values -/

/-- What a part of a text stands for; the items of an array and the fields of an object end with the closing bracket. -/
inductive Part where
  | value (t : Tree)
  | items (ts : List Tree)
  | field (key : String) (t : Tree)
  | fields (entries : List (String × Tree))

/-- The texts of a part in a dialect. -/
inductive Spelling (dialect : Dialect) : Part → List Char → Prop
  | null : Spelling dialect (.value .null) "null".toList
  | boolean (b : Bool) : Spelling dialect (.value (.boolean b)) (if b then "true".toList else "false".toList)
  | number {t : Tree} {cs : List Char} (h : Number t cs) : Spelling dialect (.value t) cs
  | text {s : String} {cs : List Char} (h : StringText dialect s cs) : Spelling dialect (.value (.text s)) cs
  | emptyArray {gap : List Char} (hg : Space gap) : Spelling dialect (.value (.array [])) ('[' :: (gap ++ [']']))
  | array {ts : List Tree} {cs : List Char} (h : Spelling dialect (.items ts) cs) :
      Spelling dialect (.value (.array ts)) ('[' :: cs)
  | emptyObject {gap : List Char} (hg : Space gap) : Spelling dialect (.value (.object [])) ('{' :: (gap ++ ['}']))
  | object {entries : List (String × Tree)} {cs : List Char} (h : Spelling dialect (.fields entries) cs)
      (hd : (entries.map Prod.fst).Nodup) : Spelling dialect (.value (.object entries)) ('{' :: cs)
  | lastItem {t : Tree} {before cs after : List Char} (hb : Space before) (h : Spelling dialect (.value t) cs)
      (ha : Space after) : Spelling dialect (.items [t]) (before ++ (cs ++ (after ++ [']'])))
  | nextItem {t : Tree} {ts : List Tree} {before cs after rest : List Char} (hb : Space before)
      (h : Spelling dialect (.value t) cs) (ha : Space after) (hr : Spelling dialect (.items ts) rest) :
      Spelling dialect (.items (t :: ts)) (before ++ (cs ++ (after ++ ',' :: rest)))
  | field {key : String} {t : Tree} {name gap space cs : List Char} (hk : KeyText dialect key name) (hg : Space gap)
      (hs : Space space) (h : Spelling dialect (.value t) cs) :
      Spelling dialect (.field key t) (name ++ (gap ++ ':' :: (space ++ cs)))
  | lastField {key : String} {t : Tree} {before cs after : List Char} (hb : Space before)
      (h : Spelling dialect (.field key t) cs) (ha : Space after) :
      Spelling dialect (.fields [(key, t)]) (before ++ (cs ++ (after ++ ['}'])))
  | nextField {key : String} {t : Tree} {entries : List (String × Tree)} {before cs after rest : List Char}
      (hb : Space before) (h : Spelling dialect (.field key t) cs) (ha : Space after)
      (hr : Spelling dialect (.fields entries) rest) :
      Spelling dialect (.fields ((key, t) :: entries)) (before ++ (cs ++ (after ++ ',' :: rest)))

/-- A text that holds one value and white space around it. -/
inductive DocumentText (dialect : Dialect) (t : Tree) : List Char → Prop
  | document {before cs after : List Char} (hb : Space before) (h : Spelling dialect (.value t) cs) (ha : Space after) :
      DocumentText dialect t (before ++ (cs ++ after))

theorem Spelling.document {dialect : Dialect} {t : Tree} {cs : List Char} (h : Spelling dialect (.value t) cs) :
    DocumentText dialect t cs := by
  have hnil : Space [] := List.forall_mem_nil _
  have := DocumentText.document hnil h hnil
  rwa [List.nil_append, List.append_nil] at this

/-- What may come after a value: white space, then a comma, a closing bracket or the end. -/
inductive Follows : List Char → Prop
  | follows {gap rest : List Char} (hg : Space gap) (hr : ∀ c, rest.head? = some c → c = ',' ∨ c = ']' ∨ c = '}') :
      Follows (gap ++ rest)

/-! ### Integers within the limit -/

/-- The nodes of a part. -/
def Part.nodes : Part → List Tree
  | .value t => t.preorder
  | .items ts => Tree.preorderItems ts
  | .field _ t => t.preorder
  | .fields entries => Tree.preorderFields entries

/-- No integer of a part has more digits than are read. -/
def Part.Fits (part : Part) : Prop :=
  ∀ n, Tree.integer n ∈ part.nodes → n.natAbs < 10 ^ Numeral.digitLimit

end SiteReader.Json
