import SiteReader.Text.Class

/-!
# Markup

A page is a list of markup: texts of several kinds, and elements with attributes and children.  The attributes keep the
order in which they were written, each name once.
-/

namespace SiteReader

namespace Markup

/-- What a text in a page is. -/
inductive TextKind where
  | plain
  | cdata
  | comment
  | instruction
  | declaration
  | doctype
  /-- The text of an element whose text is no content of the page. -/
  | inside (element : String)
deriving DecidableEq, Repr

end Markup

inductive Markup where
  | text (kind : Markup.TextKind) (content : String)
  | element (name : String) (attributes : List (String × String)) (children : List Markup)
deriving Inhabited

namespace Markup

/-- Elements that have no content of their own. -/
def voidElements : List String := [
  "area", "base", "br", "col", "embed", "hr", "img", "input", "keygen", "link", "menuitem", "meta", "param", "source",
  "track", "wbr", "basefont", "bgsound", "command", "frame", "image", "isindex", "nextid", "spacer"]

/-- Elements whose text is no content of the page. -/
def hiddenTextElements : List String := ["rt", "rp", "style", "script", "template"]

/-- Elements whose text is written as it is. -/
def rawTextElements : List String := ["script", "style"]

/-- Elements that keep all white space. -/
def spacedElements : List String := ["pre", "textarea"]

/-- The nodes directly below a node. -/
def children : Markup → List Markup
  | element _ _ children => children
  | text _ _ => []

/-- The value of an attribute. -/
def attribute? (name : String) : Markup → Option String
  | element _ attributes _ => attributes.lookup name
  | text _ _ => none

/-! ### Texts -/

mutual

/-- All texts of the kinds asked for in a node, in order. -/
def texts (wanted : TextKind → Bool) : Markup → List String
  | text kind content => if wanted kind then [content] else []
  | element _ _ children => textsOf wanted children

def textsOf (wanted : TextKind → Bool) : List Markup → List String
  | [] => []
  | node :: rest => texts wanted node ++ textsOf wanted rest

end

/-- Whether a kind of text is what a reader of the page sees. -/
def TextKind.isShown (kind : TextKind) : Bool :=
  kind = .plain || kind = .cdata

/-- The text of a node: what a reader of the page sees, or what an element of hidden text holds. -/
def innerText : Markup → String
  | element name attributes children =>
    let wanted (kind : TextKind) : Bool :=
      if hiddenTextElements.contains name then kind = .inside name else kind.isShown
    String.join ((element name attributes children).texts wanted)
  | text _ content => content

/-- The texts directly below a node, of any kind. -/
def ownTexts (node : Markup) : List String :=
  node.children.filterMap fun child => match child with
    | text _ content => some content
    | element _ _ _ => none

end Markup

end SiteReader
