/-!
# Settings

What a user may choose about the generated program and about the files it is made from.

## Main definitions

* `Settings` — the choices, with their defaults.
* `Settings.outputPath` — where the generated program writes to.
-/

namespace Stencil

/-- The choices of a user. -/
structure Settings where
  /-- The name of the generated class. -/
  className : String := "Generator"
  /-- The name of the field that the program writes through. -/
  writerName : String := "_writer"
  /-- The name of the method that holds the entry routine. -/
  entryMethod : String := "_Main"
  /-- What stands in front of each instruction that writes something. -/
  indent : String := "        "
  /-- The encoding of templates. -/
  sourceEncoding : String := "utf-8-sig"
  /-- The encoding of generated programs. -/
  programEncoding : String := "utf-8"
  /-- How many characters of a template's path its extension takes up. -/
  sourceExtensionLength : Nat := 3
  deriving DecidableEq, Repr, Inhabited

/-- An extension with its dot, which may be left out. -/
def dotted (extension : List Char) : List Char :=
  if extension.head? = some '.' then extension else '.' :: extension

/-- Where the generated program writes to: the path of the template with another extension in the
place of its own.  A path shorter than the extension is used up altogether. -/
def Settings.outputPath (settings : Settings) (templatePath extension : String) : String :=
  let path := templatePath.toList
  let stem := path.take (path.length - settings.sourceExtensionLength)
  String.ofList (stem ++ dotted extension.toList)

end Stencil
