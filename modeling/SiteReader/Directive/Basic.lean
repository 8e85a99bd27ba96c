import SiteReader.Text.Case
import SiteReader.Tree.Basic

/-!
# Request directives

The request that a rule asks for: where to, how, with which headers and which body.
-/

namespace SiteReader

structure Directive where
  url : String
  method : String
  headers : List (String × String)
  body? : Option String
deriving DecidableEq, Repr

namespace Directive

/-- The plain request for a URL. -/
def get (url : String) : Directive :=
  ⟨url, "GET", [], none⟩

/-- Whether the method is GET in any letter case. -/
def isGet (directive : Directive) : Bool :=
  uppered directive.method == "GET"

/-- The body to send, which a GET never has. -/
def dispatchBody? (directive : Directive) : Option String :=
  if directive.isGet then none else directive.body?

/-- The directive with further headers, which come first and give way to its own. -/
def withHeaders (directive : Directive) (extra : List (String × String)) : Directive :=
  { directive with headers := updateEntries extra directive.headers }

def withUrl (directive : Directive) (url : String) : Directive :=
  { directive with url }

end Directive

end SiteReader
