import LineKin.Document.Basic
import LineKin.Document.Language
import LineKin.File.Tree
import LineKin.Text.Utf8

/-!
# Documents from files

A file becomes a document if it is not too large, looks like text and is UTF-8; the three are
checked in this order. Its language follows from its name.
-/

namespace LineKin.TextDocument

/-- Whether a byte is a control character other than the ones that break lines or indent. -/
def isControl (byte : UInt8) : Bool :=
  byte < 0x20 && byte != 0x0A && byte != 0x0D && byte != 0x09

/-- Whether bytes look like text: there are none, or fewer than three in ten are control
characters. -/
def looksLikeText (bytes : ByteArray) : Bool :=
  bytes.isEmpty || 10 * bytes.data.countP isControl < 3 * bytes.size

/-- The document that the bytes of a file stand for. -/
def ofBytes (path : String) (bytes : ByteArray) (maxFileSize : Nat) :
    Except DocumentError TextDocument :=
  if maxFileSize < bytes.size then .error (.fileTooLarge bytes.size maxFileSize)
  else if !looksLikeText bytes then .error (.binaryFile path)
  else
    match Text.Utf8.decode bytes with
    | .ok text => .ok (ofText text (Language.ofPath path))
    | .error fault =>
      .error (.readFailed path ("not valid UTF-8: " ++ (fault.map (·.message)).getD ""))

/-- The document of a file. -/
def ofFile (files : FileTree) (path : String) (maxFileSize : Nat) :
    Except DocumentError TextDocument :=
  match files.read path with
  | .ok bytes => ofBytes path bytes maxFileSize
  | .error e => .error (.readFailed path e.message)

end LineKin.TextDocument
