import SiteReader.Selector.Basic

/-!
# Selectors by name

What the names after a colon stand for.
-/

namespace SiteReader.Selector

/-! ### Short forms -/

def tests (ts : List Test) : Selector := .all ts .free

def named (name : String) : Test := .name none name

def someOf (selectors : List Selector) : Test := .anyOf false selectors

def noneOf (selectors : List Selector) : Test := .anyOf true selectors

/-- One of some element names. -/
def oneOfNames (names : List String) : Test :=
  someOf (names.map fun name => tests [named name])

def has (key : String) : Test :=
  .valued ⟨key, .present, "", false⟩

def hasValue (key value : String) : Test :=
  .valued ⟨key, .equals, value, key == "type"⟩

/-- No type at all, or one of some types. -/
def ofTypes (types : List String) : Test :=
  someOf (tests [noneOf [tests [has "type"]]] :: types.map fun type => tests [hasValue "type" type])

/-! ### Form controls and links -/

/-- The names of form controls that may be disabled, hidden ones left out. -/
def control : Test :=
  someOf (tests [named "input", noneOf [tests [hasValue "type" "hidden"]]] ::
    ["button", "select", "textarea", "fieldset"].map fun name => tests [named name])

def links : List Selector := [tests [oneOfNames ["a", "area"], has "href"]]

def checked : List Selector := [
  tests [named "input", someOf [tests [hasValue "type" "checkbox"], tests [hasValue "type" "radio"]], has "checked"],
  tests [named "option", has "selected"]]

def disabled : List Selector := [
  tests [someOf [tests [control], tests [oneOfNames ["optgroup", "option"]]], has "disabled"],
  .all [named "option"] (.back .directlyBelow (tests [named "optgroup", has "disabled"])),
  .all [control] (.back .directlyBelow (tests [named "fieldset", has "disabled"])),
  .all [control] (.back .below (.all
    [noneOf [tests [named "legend", .position ⟨0, 1⟩ false true []]]]
    (.back .directlyBelow (tests [named "fieldset", has "disabled"]))))]

def enabled : List Selector := [
  tests [someOf [tests [control], tests [oneOfNames ["optgroup", "option"]]], noneOf disabled]]

def required : List Selector := [tests [oneOfNames ["input", "select", "textarea"], has "required"]]

def optionalControls : List Selector := [
  tests [oneOfNames ["input", "select", "textarea"], noneOf [tests [has "required"]]]]

def opened : List Selector := [tests [oneOfNames ["details", "dialog"], has "open"]]

def muted : List Selector := [tests [oneOfNames ["video", "audio"], has "muted"]]

def readWrite : List Selector := [
  tests [
    someOf [tests [named "textarea"], tests [named "input", ofTypes ["", "date", "datetime-local", "email", "month",
      "number", "password", "search", "tel", "text", "time", "url", "week"]]],
    noneOf (tests [has "readonly"] :: disabled)],
  tests [someOf [tests [hasValue "contenteditable" ""],
    tests [.valued ⟨"contenteditable", .equals, "true", true⟩]]]]

def readOnly : List Selector := [tests [noneOf readWrite]]

def placeholderShown : List Selector := [
  tests [named "input", ofTypes ["", "text", "search", "url", "tel", "email", "password", "number"],
    has "placeholder", noneOf [tests [hasValue "placeholder" ""]],
    someOf [tests [noneOf [tests [has "value"]]], tests [hasValue "value" ""]]],
  tests [named "textarea", has "placeholder", noneOf [tests [hasValue "placeholder" ""]], .blank]]

/-! ### Names -/

/-- The tests that a name without arguments stands for. -/
def standard? (name : String) : Option (List Test) :=
  let position (fromEnd sameName : Bool) : Test := .position ⟨0, 1⟩ fromEnd sameName []
  match name with
  | "root" => some [.root]
  | "scope" => some [.scope]
  | "empty" => some [.empty]
  | "defined" => some [.defined]
  | "link" => some [someOf links]
  | "any-link" => some [someOf links]
  | "checked" => some [someOf checked]
  | "disabled" => some [someOf disabled]
  | "enabled" => some [someOf enabled]
  | "required" => some [someOf required]
  | "optional" => some [someOf optionalControls]
  | "open" => some [someOf opened]
  | "muted" => some [someOf muted]
  | "read-only" => some [someOf readOnly]
  | "read-write" => some [someOf readWrite]
  | "placeholder-shown" => some [someOf placeholderShown]
  | "first-child" => some [position false false]
  | "last-child" => some [position true false]
  | "first-of-type" => some [position false true]
  | "last-of-type" => some [position true true]
  | "only-child" => some [position false false, position true false]
  | "only-of-type" => some [position false true, position true true]
  | _ => none

/-- Names without arguments for what a page at rest does not show. -/
def neverShown : List String := [
  "active", "autofill", "buffering", "current", "default", "focus", "focus-visible", "focus-within", "fullscreen",
  "future", "host", "hover", "in-range", "indeterminate", "local-link", "modal", "out-of-range", "past", "paused",
  "picture-in-picture", "playing", "popover-open", "seeking", "stalled", "target", "target-within", "user-invalid",
  "user-valid", "visited", "volume-locked"]

/-- Names with selectors as arguments for what a page at rest does not show. -/
def neverShownOf : List String := ["current", "host", "host-context"]

end SiteReader.Selector
