import SiteReader.Text.Case

/-!
# Language ranges

A language tag is a list of subtags with hyphens between them.  A range fits a tag if its first subtag is that of the
tag or a star, and its other subtags occur in the tag in their order, with no subtag of one letter passed over.
-/

namespace SiteReader.Selector.Language

/-- The subtags of a text in lower case. -/
def subtags (text : String) : List String :=
  (Text.splitOn ['-'] (Text.lower text.toList)).map String.ofList

/-- Whether the later subtags of a range occur in those of a tag. -/
def occursIn : List String → List String → Bool
  | [], _ => true
  | _ :: _, [] => false
  | r :: rs, s :: ss =>
    if r.isEmpty then false
    else if s = r then occursIn rs ss
    else if s.length = 1 then false
    else occursIn (r :: rs) ss

/-- Whether a range fits a tag.  Stars after the first subtag have no effect. -/
def fits (range tag : String) : Bool :=
  match subtags range, subtags tag with
  | r :: rs, s :: ss =>
    if rs.isEmpty && ss.isEmpty && r.isEmpty && s.isEmpty then true
    else if (r != "*" && r != s) || (r == "*" && ss.isEmpty && s.isEmpty) then false
    else occursIn (rs.filter (· != "*")) ss
  | _, _ => false

end SiteReader.Selector.Language
