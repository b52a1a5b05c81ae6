import WebTestRun.Diff.Change

/-!
# Pages that show a diff

All lines of two texts on a page, with removed and added lines marked by a span. The characters
that mean something in HTML are written as entities, so a line cannot be taken for markup.

* `Diff.escape` — a text as the page holds it.
* `Diff.page` — the page of a list of changes.
-/

set_option autoImplicit false

namespace WebTestRun.Diff

/-- How a page holds a character. -/
def escapeChar (c : Char) : List Char :=
  if c = '&' then ['&', 'a', 'm', 'p', ';']
  else if c = '<' then ['&', 'l', 't', ';']
  else if c = '>' then ['&', 'g', 't', ';']
  else if c = '"' then ['&', 'q', 'u', 'o', 't', ';']
  else [c]

/-- How a page holds a text. -/
def escape (s : String) : List Char := s.toList.flatMap escapeChar

/-- What stands before a removed line. -/
def removedTag : String := "<span class=\"del\">"

/-- What stands before an added line. -/
def addedTag : String := "<span class=\"add\">"

/-- What stands after a marked line. -/
def endTag : String := "</span>"

/-- How a page holds a changed line. -/
def markup (c : Change) : List Char :=
  match c.kind with
  | .kept => escape c.line
  | .removed => removedTag.toList ++ escape c.line ++ endTag.toList
  | .added => addedTag.toList ++ escape c.line ++ endTag.toList

/-- What a page holds of a list of changes. -/
def body (changes : List Change) : List Char := changes.flatMap markup

/-- The start of a page, up to the changes. -/
def pageStart : String :=
  "<html>\n<head>\n<style>.del \x7b background: #faa; \x7d.add \x7b background: #afa; \x7d" ++
    "</style>\n</head>\n<body>\n<pre>"

/-- The end of a page, after the changes. -/
def pageEnd : String := "</pre>\n</body>\n</html>\n"

/-- The page of a list of changes. -/
def page (changes : List Change) : String :=
  String.ofList (pageStart.toList ++ body changes ++ pageEnd.toList)

/-- The page that shows how two texts differ. -/
def html (old new : String) : String := page (ofTexts old new).changes

end WebTestRun.Diff
