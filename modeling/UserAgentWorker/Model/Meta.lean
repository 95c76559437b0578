import UserAgentWorker.Model.UserAgent

namespace UserAgentModel

open Text

section Meta

variable (toJsonString : String → Option String)

/-- `serde_json::to_string(k).expect("string serializes to JSON")`. -/
def expectJson (k : String) : Run String :=
  match toJsonString k with
  | some json => .ok json
  | none => .error .panic

def keywordsJson (keywords : String) : Run String := do
  let items ← (((split ',' keywords).map trim).filter fun k => !k.isEmpty).mapM (expectJson toJsonString)
  return "[" ++ join ',' items ++ "]"

def objectTags (title docLlm docMd keywords category : String) : Run (List (String × String)) := do
  let keywords ← keywordsJson toJsonString keywords
  return [
    ("vgi.title", title),
    ("vgi.doc_llm", docLlm),
    ("vgi.doc_md", docMd),
    ("vgi.keywords", keywords),
    ("vgi.category", category)]

end Meta

end UserAgentModel
