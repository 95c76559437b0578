import UserAgentWorker.Json.Reader
import UserAgentWorker.Json.Writer
import UserAgentWorker.Model.Meta
import UserAgentWorker.Rows.Traversal

namespace UserAgentProof

open Text UserAgentModel

/-- What a keyword list means: the pieces between the commas, trimmed, the empty ones left out. -/
def keywordPieces (keywords : String) : List String := ((split ',' keywords).map trim).filter fun piece => piece ≠ ""

def StandardEscaping (toJsonString : String → Option String) : Prop :=
  ∀ s, ∃ json, toJsonString s = some json ∧ Json.QuotedString json.toList s

section Pieces

theorem keywordPieces_spec {keywords piece : String} (member : piece ∈ keywordPieces keywords) :
    piece ≠ "" ∧ Trimmed piece ∧ ',' ∉ piece.toList := by
  obtain ⟨listed, shown⟩ := List.mem_filter.mp member
  obtain ⟨raw, inside, same⟩ := List.mem_map.mp listed
  subst same
  refine ⟨by simpa using shown, trim_trimmed raw, ?_⟩
  intro comma
  exact not_mem_of_mem_split inside (mem_of_mem_trim comma)

theorem keywordPieces_join (keywords : String) :
    keywordPieces (join ',' (keywordPieces keywords)) = keywordPieces keywords := by
  by_cases none : keywordPieces keywords = []
  · rw [none]
    decide
  · have pieces : split ',' (join ',' (keywordPieces keywords)) = keywordPieces keywords :=
      split_join_of_not_mem none fun piece member => (keywordPieces_spec member).2.2
    have trimmed : (keywordPieces keywords).map trim = (keywordPieces keywords).map id := by
      apply List.map_congr_left
      intro piece member
      exact (trim_eq_self_iff piece).mpr (keywordPieces_spec member).2.1
    rw [keywordPieces, pieces, trimmed, List.map_id, List.filter_eq_self]
    intro piece member
    simpa using (keywordPieces_spec member).1

end Pieces

section Encoding

variable {toJsonString : String → Option String}

theorem kept_pieces (keywords : String) :
    (((split ',' keywords).map trim).filter fun k => !k.isEmpty) = keywordPieces keywords := by
  apply List.filter_congr
  intro piece _
  cases empty : piece.isEmpty with
  | true => simp [String.isEmpty_iff.mp empty]
  | false =>
    have shown : piece ≠ "" := by
      intro same
      subst same
      cases empty
    simp [shown]

/-- One encoding of single texts serves every keyword list. -/
theorem keywordsJson_eq (standard : StandardEscaping toJsonString) :
    ∃ json : String → String, (∀ s, Json.QuotedString (json s).toList s) ∧
      ∀ keywords, keywordsJson toJsonString keywords =
        .ok ("[" ++ join ',' ((keywordPieces keywords).map json) ++ "]") := by
  choose json encodes quoted using standard
  refine ⟨json, quoted, ?_⟩
  intro keywords
  have items : (keywordPieces keywords).mapM (expectJson toJsonString) = .ok ((keywordPieces keywords).map json) := by
    apply Rows.mapM_answer
    intro piece _
    rw [expectJson, encodes]
  rw [keywordsJson, kept_pieces, items]
  rfl

end Encoding

theorem keywords_decode (toJsonString : String → Option String) (standard : StandardEscaping toJsonString)
    (keywords : String) :
    ∃ text, keywordsJson toJsonString keywords = .ok text ∧
      Json.StringArray text.toList (keywordPieces keywords) ∧
      (∀ items, Json.StringArray text.toList items → items = keywordPieces keywords) ∧
      Json.decode text = some (keywordPieces keywords) ∧
      keywordsJson toJsonString (join ',' (keywordPieces keywords)) = .ok text := by
  obtain ⟨json, quoted, encodes⟩ := keywordsJson_eq standard
  have array := Json.stringArray_join quoted (keywordPieces keywords)
  refine ⟨_, encodes keywords, array, ?_, Json.decode_stringArray array, ?_⟩
  · intro items other
    exact Json.stringArray_unique other array
  · rw [encodes, keywordPieces_join]

theorem keywords_decode_quoted :
    ∃ text, keywordsJson (fun s => some (Json.quote s)) " bot, \"web\tcrawler\",, bot " = .ok text ∧
      Json.decode text = some ["bot", "\"web\tcrawler\"", "bot"] := by
  have standard : StandardEscaping fun s => some (Json.quote s) := fun s => ⟨_, rfl, Json.quote_string s⟩
  obtain ⟨text, encoded, _, _, decoded, _⟩ := keywords_decode _ standard " bot, \"web\tcrawler\",, bot "
  have pieces : keywordPieces " bot, \"web\tcrawler\",, bot " = ["bot", "\"web\tcrawler\"", "bot"] := by decide
  exact ⟨text, encoded, pieces ▸ decoded⟩

theorem objectTags_keywords {toJsonString : String → Option String} (standard : StandardEscaping toJsonString)
    (title docLlm docMd keywords category : String) :
    ∃ tags text, objectTags toJsonString title docLlm docMd keywords category = .ok tags ∧
      tags.lookup "vgi.keywords" = some text ∧ Json.decode text = some (keywordPieces keywords) := by
  obtain ⟨json, quoted, encodes⟩ := keywordsJson_eq standard
  have array := Json.stringArray_join quoted (keywordPieces keywords)
  have tags : objectTags toJsonString title docLlm docMd keywords category =
      .ok [("vgi.title", title), ("vgi.doc_llm", docLlm), ("vgi.doc_md", docMd),
        ("vgi.keywords", "[" ++ join ',' ((keywordPieces keywords).map json) ++ "]"), ("vgi.category", category)] := by
    rw [objectTags, encodes]
    rfl
  exact ⟨_, _, tags, rfl, Json.decode_stringArray array⟩

end UserAgentProof
