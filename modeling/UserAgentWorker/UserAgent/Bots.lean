import UserAgentWorker.UserAgent.Normal

namespace UserAgentProof

open Text UserAgentModel

structure BotAgrees (client : Client) (p : Parsed) : Prop where
  flag : p.isBot = true ↔ normFamily client.device.family = some "Spider"
  device : p.device ≠ some "Spider"
  bot : p.isBot = true → p.device = none ∧ p.brand = none
  other : p.isBot = false → p.device = normFamily client.device.family ∧ p.brand = normOpt client.device.brand

theorem normFamily_spider_iff (family : String) : normFamily family = some "Spider" ↔ trim family = "Spider" := by
  have shown : "Spider" ≠ "" := by decide
  have known : "Spider" ≠ "Other" := by decide
  rw [normFamily_eq_some_iff]
  simp only [shown, known, ne_eq, not_false_eq_true, and_self, and_true]

theorem trim_spider : trim "Spider" = "Spider" := by decide

section Agreement

variable {client : Client}

theorem botAgrees_spider (bot : client.device.family = "Spider") : BotAgrees client (parsedOf client) := by
  obtain ⟨flag, device, brand⟩ := parsedOf_bot client bot
  refine ⟨?_, ?_, ?_, ?_⟩
  · rw [flag, normFamily_spider_iff, bot, trim_spider]
    simp
  · rw [device]
    simp
  · intro _
    exact ⟨device, brand⟩
  · intro other
    rw [flag] at other
    cases other

theorem botAgrees_other_iff (other : client.device.family ≠ "Spider") :
    BotAgrees client (parsedOf client) ↔ trim client.device.family ≠ "Spider" := by
  obtain ⟨flag, device, brand⟩ := parsedOf_other client other
  rw [ne_eq, ← normFamily_spider_iff]
  constructor
  · intro agrees named
    have spider := agrees.flag.mpr named
    rw [flag] at spider
    cases spider
  · intro unnamed
    refine ⟨?_, ?_, ?_, ?_⟩
    · rw [flag]
      simp [unnamed]
    · rw [device]
      exact unnamed
    · intro spider
      rw [flag] at spider
      cases spider
    · intro _
      exact ⟨device, brand⟩

/-- The flag compares the family as it comes, the device field compares it trimmed. -/
theorem botAgrees_iff (client : Client) :
    BotAgrees client (parsedOf client) ↔ (trim client.device.family = "Spider" → client.device.family = "Spider") := by
  by_cases bot : client.device.family = "Spider"
  · simp only [botAgrees_spider bot, bot, implies_true]
  · rw [botAgrees_other_iff bot]
    simp only [bot, imp_false, ne_eq]

end Agreement

theorem bot_agrees (ex : Externals) (ua : String) :
    ∃ front p, bound ua = .ok front ∧ parse ex ua = .ok p ∧
      (BotAgrees (ex.parser front) p ↔
        (trim (ex.parser front).device.family = "Spider" → (ex.parser front).device.family = "Spider")) :=
  ⟨_, _, bound_eq ua, parse_eq ex ua, botAgrees_iff _⟩

/-- The engine's answer to "Android 9;  Spider)", whose device is a group that keeps its padding. -/
def androidSpider : Client := { unmatched with device := ⟨" Spider", some "Generic_Android"⟩ }

theorem padded_spider_escapes :
    ¬ ∀ ex ua front p, bound ua = .ok front → parse ex ua = .ok p → BotAgrees (ex.parser front) p := by
  intro claim
  have parsed := parse_constantEngine androidSpider "Android 9;  Spider)"
  have agrees := claim (constantEngine androidSpider) "Android 9;  Spider)" _ _ rfl parsed
  have shown : (parsedOf androidSpider).device = some "Spider" := by decide
  exact agrees.device shown

end UserAgentProof
