import UserAgentWorker.Text.Patterns

namespace PreprocessRequire

open Text RegularExpression

/-- `/^require[ \t]+vgi[ \t]*$/`. -/
def requireVgi : RegularExpression Char := literal "require".toList * gap * literal "vgi".toList * blanks

/-- `/^LOAD[ \t]+vgi[ \t]*;[ \t]*$/`. -/
def loadVgi : RegularExpression Char :=
  literal "LOAD".toList * gap * literal "vgi".toList * blanks * literal ";".toList * blanks

/-- `/^require[ \t]+(httpfs|json|parquet|spatial)[ \t]*$/`. -/
def requireCore : RegularExpression Char :=
  literal "require".toList * gap * (literal "httpfs".toList + literal "json".toList + literal "parquet".toList +
    literal "spatial".toList) * blanks

def matchesLine (pattern : RegularExpression Char) (line : String) : Bool := pattern.rmatch line.toList

/-- `$n`, with the fields of a line between its blanks. -/
def field (n : Nat) (line : String) : String :=
  match (runs isBlank line.toList)[n - 1]? with
  | some word => String.ofList word
  | none => ""

def install (ext channel : String) : String := "INSTALL " ++ ext ++ " FROM " ++ channel ++ ";"

def load (ext : String) : String := "LOAD " ++ ext ++ ";"

def signed (ext channel : String) : List String := [
  "statement ok", install ext channel, "",
  "statement ok", load ext]

def injected (transport : String) : List String :=
  if transport = "http" then "" :: signed "httpfs" "core" else []

def rewrite (transport line : String) : List String :=
  if matchesLine requireVgi line then signed "vgi" "community" ++ injected transport
  else if matchesLine loadVgi line then line :: injected transport
  else if matchesLine requireCore line then signed (field 2 line) "core"
  else [line]

def preprocess (transport : String) (lines : List String) : List String := lines.flatMap (rewrite transport)

end PreprocessRequire
