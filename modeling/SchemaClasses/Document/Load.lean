import SchemaClasses.Document.Node
import SchemaClasses.Json.Reader
import SchemaClasses.Output.Path
import SchemaClasses.Text.Lines
import SchemaClasses.Text.Utf8
import SchemaClasses.Yaml.Reader

/-!
# Loading documents

A document is read from JSON or from YAML. The suffix of a file's name says which of them it is in;
its text is UTF-8, and every kind of line end in it is read as a line feed.

## Main definitions

* `Format`: JSON or YAML.
* `Node.read`: a document from its text.
* `Node.ofFile`: a document from the name and the text of its file.
* `Node.ofBytes`: a document from the name and the bytes of its file.
-/

namespace SchemaClasses

inductive Format where
  | json
  | yaml
deriving DecidableEq

def Format.ofFileName (fileName : String) : Format :=
  let suffix := String.ofList ((Path.ofText fileName).suffix.toList.map Char.toLower)
  if suffix = ".yaml" || suffix = ".yml" then .yaml else .json

namespace Node

def read (format : Format) (text : String) : Except Failure Node :=
  match format with
  | .json => ofValue <$> Json.read text
  | .yaml => ofValue <$> Yaml.read text

def ofFile (fileName text : String) : Except Failure Node :=
  read (.ofFileName fileName) (String.ofList (Text.withNewlines text.toList))

def ofBytes (fileName : String) (bytes : List Nat) : Except Failure Node :=
  match Text.decodeUtf8? bytes with
  | some text => ofFile fileName (String.ofList text)
  | none => .error .malformedUtf8

end Node

end SchemaClasses
