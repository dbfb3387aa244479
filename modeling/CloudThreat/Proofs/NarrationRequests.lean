import CloudThreat.Narrator
import CloudThreat.Proofs.CacheQueries

namespace CloudThreat

/-- The first letter of the prompts of a kind. -/
def PromptKind.opening : PromptKind → Char
  | threatDescription => 'C'
  | remediation => 'R'
  | compliance => 'M'
  | attackScenario => 'W'
  | riskAssessment => 'A'
  | mitigationAlternatives => 'P'

theorem PromptKind.opening_injective {k k' : PromptKind} (h : k.opening = k'.opening) : k = k' := by
  cases k <;> cases k' <;> first | rfl | exact absurd h (by decide)

theorem not_mem_append {s t : String} {c : Char} (hs : c ∉ s.toList) (ht : c ∉ t.toList) :
    c ∉ (s ++ t).toList := by
  rw [String.toList_append, List.mem_append]
  exact fun h => h.elim hs ht

theorem PromptKind.not_mem_architectRole : '|' ∉ architectRole.toList :=
  not_mem_append (not_mem_append (by decide +kernel) (by decide +kernel)) (by decide +kernel)

theorem PromptKind.not_mem_systemPrompt (k : PromptKind) : '|' ∉ k.systemPrompt.toList := by
  cases k with
  | threatDescription => exact not_mem_architectRole
  | remediation => exact not_mem_append (by decide +kernel) (by decide +kernel)
  | compliance => exact not_mem_append (by decide +kernel) (by decide +kernel)
  | attackScenario => exact not_mem_append (by decide +kernel) (by decide +kernel)
  | riskAssessment => exact not_mem_append (by decide +kernel) (by decide +kernel)
  | mitigationAlternatives => exact not_mem_architectRole

namespace Prompt

theorem lines_head? {first : String} {rest : List String} {c : Char}
    (h : first.toList.head? = some c) : (lines (first :: rest)).toList.head? = some c := by
  cases rest with
  | nil => rwa [lines, String.intercalate_singleton]
  | cons second rest =>
    rw [lines, String.intercalate_cons_cons, String.toList_append, String.toList_append,
      List.append_assoc, List.head?_append, h, Option.some_or]

end Prompt

namespace Narration

/-- The prompt opens with the letter of its kind. -/
def Opens (n : Narration) : Prop := n.prompt.toList.head? = some n.kind.opening

theorem describeThreat_opens (t : Threat) (r : Resource) : (describeThreat t r).Opens :=
  Prompt.lines_head? (c := 'C') (by simp)

theorem remediation_opens (t : Threat) (r : Resource) : (remediation t r).Opens :=
  Prompt.lines_head? (c := 'R') (by simp)

theorem compliance_opens (t : Threat) (framework : String) (controlId description : Option String) :
    (compliance t framework controlId description).Opens := by
  rw [compliance]
  rcases control t framework controlId description with ⟨id, text⟩
  dsimp only [Opens, PromptKind.opening]
  rw [Prompt.compliance, List.append_assoc, List.cons_append]
  exact Prompt.lines_head? (by simp)

theorem attackScenario_opens (t : Threat) (r : Resource) : (attackScenario t r).Opens :=
  Prompt.lines_head? (c := 'W') (by simp)

theorem riskAssessment_opens (t : Threat) (context : Json) : (riskAssessment t context).Opens :=
  Prompt.lines_head? (c := 'A') (by simp)

theorem mitigationAlternatives_opens (t : Threat) (constraints : Option Json) :
    (mitigationAlternatives t constraints).Opens :=
  Prompt.lines_head? (c := 'P') (by simp)

theorem of_opens (kind : PromptKind) (t : Threat) (r : Resource) : (Narration.of kind t r).Opens := by
  cases kind with
  | threatDescription => exact describeThreat_opens t r
  | remediation => exact remediation_opens t r
  | compliance => exact compliance_opens t _ none none
  | attackScenario => exact attackScenario_opens t r
  | riskAssessment => exact riskAssessment_opens t _
  | mitigationAlternatives => exact mitigationAlternatives_opens t none

end Narration

/-- A text that a caller may ask a narrator for. -/
inductive NarrationOrder where
  | of (kind : PromptKind) (t : Threat) (r : Resource)
  | compliance (t : Threat) (framework : String) (controlId description : Option String)
  | riskAssessment (t : Threat) (context : Json)
  | mitigationAlternatives (t : Threat) (constraints : Option Json)

namespace NarrationOrder

variable {o o' : NarrationOrder}

def narration : NarrationOrder → Narration
  | of kind t r => .of kind t r
  | compliance t framework controlId description =>
    .compliance t framework controlId description
  | riskAssessment t context => .riskAssessment t context
  | mitigationAlternatives t constraints => .mitigationAlternatives t constraints

def request (o : NarrationOrder) : TextRequest := o.narration.request

def query (o : NarrationOrder) : CacheQuery :=
  ⟨o.narration.prompt, some o.narration.kind.systemPrompt⟩

theorem opens (o : NarrationOrder) : o.narration.Opens := by
  cases o with
  | of kind t r => exact Narration.of_opens kind t r
  | compliance t framework controlId description =>
    exact Narration.compliance_opens t framework controlId description
  | riskAssessment t context => exact Narration.riskAssessment_opens t context
  | mitigationAlternatives t constraints =>
    exact Narration.mitigationAlternatives_opens t constraints

/-- The role and the prompt tell what else is in the request. -/
theorem request_eq_of_text_eq (h : o.query.text = o'.query.text) : o.request = o'.request := by
  have plain : ∀ o : NarrationOrder, '|' ∉ o.query.role.toList :=
    fun o => o.narration.kind.not_mem_systemPrompt
  rcases CacheQuery.text_eq_iff.mp h with ⟨_, prompts⟩ | into | into
  · have prompts : o.narration.prompt = o'.narration.prompt := prompts
    have kinds : o.narration.kind = o'.narration.kind := by
      have openings : some o.narration.kind.opening = some o'.narration.kind.opening := by
        rw [← o.opens, ← o'.opens, prompts]
      exact PromptKind.opening_injective (Option.some.inj openings)
    have narrations : o.narration = o'.narration := by
      cases hn : o.narration with
      | mk kind prompt =>
        cases hn' : o'.narration with
        | mk kind' prompt' =>
          rw [hn, hn'] at kinds prompts
          exact congr (congrArg Narration.mk kinds) prompts
    exact congrArg Narration.request narrations
  · exact absurd into (CacheQuery.not_runsInto_of_not_mem (plain o'))
  · exact absurd into (CacheQuery.not_runsInto_of_not_mem (plain o))

end NarrationOrder

end CloudThreat
