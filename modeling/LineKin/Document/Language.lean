import LineKin.File.Path

/-!
# Languages by file name

The language of a file is read off the extension of its name, in upper or lower case. A file whose
extension is not in `languages` is plain text.
-/

namespace LineKin.Language

/-- The language of files that are not known to be anything else. -/
def plainText : String := "plaintext"

/-- The languages with the extensions that stand for them. -/
def languages : List (String × List String) :=
  [("javascript", ["js", "mjs", "cjs"]),
   ("javascriptreact", ["jsx"]),
   ("typescript", ["ts", "mts", "cts"]),
   ("typescriptreact", ["tsx"]),
   ("python", ["py", "pyi"]),
   ("rust", ["rs"]),
   ("java", ["java"]),
   ("kotlin", ["kt", "kts"]),
   ("scala", ["scala"]),
   ("go", ["go"]),
   ("c", ["c", "h"]),
   ("cpp", ["cpp", "cc", "cxx", "hpp", "hxx", "hh"]),
   ("csharp", ["cs"]),
   ("swift", ["swift"]),
   ("ruby", ["rb"]),
   ("php", ["php"]),
   ("dart", ["dart"]),
   ("shellscript", ["sh", "bash"]),
   ("json", ["json"]),
   (plainText, ["txt"])]

/-- The lower-case form of a character as far as it is an ASCII letter. Besides the ASCII capitals
only the Kelvin sign has one. -/
def lowerCase (c : Char) : Char := if c = '\u212A' then 'k' else c.toLower

/-- The language that an extension stands for. -/
def ofExtension? (extension : String) : Option String :=
  let lower := String.ofList (extension.toList.map lowerCase)
  (languages.find? fun entry => entry.2.contains lower).map (·.1)

/-- The language of a file. -/
def ofPath (path : String) : String :=
  ((Path.extension? path).bind ofExtension?).getD plainText

end LineKin.Language
