import CloudThreat.Proofs.CodeKinds

namespace CloudThreat

/-- Nodes that are the same but for the label. -/
structure Node.Agrees (n m : Node) : Prop where
  id_eq : n.id = m.id
  type_eq : n.type = m.type
  boundary_eq : n.boundary = m.boundary
  properties_eq : n.properties = m.properties

theorem Node.Agrees.symm {n m : Node} (h : n.Agrees m) : m.Agrees n :=
  ⟨h.id_eq.symm, h.type_eq.symm, h.boundary_eq.symm, h.properties_eq.symm⟩

theorem Node.Agrees.trans {n m k : Node} (h : n.Agrees m) (h' : m.Agrees k) : n.Agrees k :=
  ⟨h.id_eq.trans h'.id_eq, h.type_eq.trans h'.type_eq, h.boundary_eq.trans h'.boundary_eq,
    h.properties_eq.trans h'.properties_eq⟩

/-- A relation holds in the order of a list if it holds of each element with all before it. -/
theorem pairwise_of_before {α : Type} {R : α → α → Prop} {l : List α}
    (h : ∀ before a after, l = before ++ a :: after → ∀ b ∈ before, R b a) : l.Pairwise R := by
  induction l using List.reverseRecOn with
  | nil => exact .nil
  | append_singleton l a ih =>
    refine List.pairwise_append.mpr ⟨ih fun before c after hl => ?_, by simp, fun b hb c hc => ?_⟩
    · refine h before c (after ++ [a]) ?_
      rw [hl, List.append_assoc, List.cons_append]
    · obtain rfl := List.mem_singleton.mp hc
      exact h l c [] rfl b hb

theorem CodeFlow.toJson_ne_empty (f : CodeFlow) : f.toJson ≠ .obj [] := by
  have named : f.toJson.get? "function" = some (.str f.function) :=
    JsonObject.get?_object (by simp) rfl
  intro empty
  rw [empty] at named
  cases named

/-- The ids of the names in a flow. -/
def CodeFlow.ids (f : CodeFlow) : List String :=
  f.names.map Diagram.functionId

namespace Diagram

variable {flows flows' : List CodeFlow} {f g : CodeFlow} {n m : Node} {id : String}

/-- The diagrams have the same nodes, whatever the labels are. -/
def SameNodes (d d' : Diagram) : Prop :=
  (∀ n ∈ d.nodes, ∃ m ∈ d'.nodes, n.Agrees m) ∧ ∀ m ∈ d'.nodes, ∃ n ∈ d.nodes, n.Agrees m

/-- The node of a function has the record of its flow. -/
def CarriesRecord (d : Diagram) (f : CodeFlow) : Prop :=
  ∃ n ∈ d.nodes, n.id = functionId f.function ∧ n.properties = f.toJson

/-- The first nodes of two flows agree under each id that both have. -/
def Compatible (f g : CodeFlow) : Prop :=
  ∀ id n m, (nodesOfFlow f).find? (·.id = id) = some n →
    (nodesOfFlow g).find? (·.id = id) = some m → n.Agrees m

/-- Neither of two flows names the function of the other, and what both name is first used in the
same way. -/
def Separate (f g : CodeFlow) : Prop :=
  functionId f.function ∉ g.ids ∧ functionId g.function ∉ f.ids ∧
    ∀ id ∈ f.ids, id ∈ g.ids → f.useOf? id = g.useOf? id

instance (f g : CodeFlow) : Decidable (Separate f g) :=
  inferInstanceAs (Decidable (_ ∧ _))

theorem exists_nodesOfFlow_find?_iff :
    (∃ n, (nodesOfFlow f).find? (·.id = id) = some n) ↔ id ∈ f.ids := by
  rw [← Option.isSome_iff_exists, List.find?_isSome, CodeFlow.ids, ← nodesOfFlow_ids]
  simp

theorem nodesOfFlow_find?_own : (nodesOfFlow f).find? (·.id = functionId f.function) =
    some (recordNode f) := by
  rw [nodesOfFlow_find?, if_pos rfl]

/-- Under the id of another function, a flow has a node without a record. -/
theorem properties_of_other (other : functionId f.function ≠ id)
    (h : (nodesOfFlow f).find? (·.id = id) = some n) : n.properties = .obj [] := by
  rw [nodesOfFlow_find?, if_neg other] at h
  obtain ⟨u, _, rfl⟩ := Option.map_eq_some_iff.mp h
  rfl

theorem nodesOfFlow_find?_id (h : (nodesOfFlow f).find? (·.id = id) = some n) : n.id = id := by
  simpa using List.find?_some h

theorem Compatible.symm (h : Compatible f g) : Compatible g f :=
  fun id n m hn hm => (h id m n hm hn).symm

/-- A function that another flow names has a node with its record there and one without here. -/
theorem Compatible.not_mem_ids (h : Compatible f g)
    (apart : functionId f.function ≠ functionId g.function) : functionId f.function ∉ g.ids := by
  intro named
  obtain ⟨m, hm⟩ := exists_nodesOfFlow_find?_iff.mpr named
  have record : f.toJson = m.properties := (h _ _ _ nodesOfFlow_find?_own hm).properties_eq
  rw [properties_of_other apart.symm hm] at record
  exact f.toJson_ne_empty record

theorem Compatible.useOf?_eq (h : Compatible f g) (hf : id ∈ f.ids) (hg : id ∈ g.ids) :
    f.useOf? id = g.useOf? id := by
  obtain ⟨n, hn⟩ := exists_nodesOfFlow_find?_iff.mpr hf
  obtain ⟨m, hm⟩ := exists_nodesOfFlow_find?_iff.mpr hg
  obtain ⟨u, hu, hun, _⟩ := nodesOfFlow_find?_used hn
  obtain ⟨v, hv, hvm, _⟩ := nodesOfFlow_find?_used hm
  have same : u.nodeType = v.nodeType := by rw [← hun, ← hvm, (h id n m hn hm).type_eq]
  rw [hu, hv, CodeUse.nodeType_injective same]

theorem Separate.compatible (h : Separate f g) : Compatible f g := by
  obtain ⟨foreign, foreign', uses⟩ := h
  intro id n m hn hm
  have hf : id ∈ f.ids := exists_nodesOfFlow_find?_iff.mp ⟨n, hn⟩
  have hg : id ∈ g.ids := exists_nodesOfFlow_find?_iff.mp ⟨m, hm⟩
  have otherF : functionId f.function ≠ id := fun same => foreign (same ▸ hg)
  have otherG : functionId g.function ≠ id := fun same => foreign' (same ▸ hf)
  obtain ⟨u, hu, kindF⟩ := nodesOfFlow_find?_used hn
  obtain ⟨v, hv, kindG⟩ := nodesOfFlow_find?_used hm
  obtain rfl : u = v := Option.some.inj (hu.symm.trans ((uses id hf hg).trans hv))
  refine ⟨?_, kindF.1.trans kindG.1.symm, kindF.2.trans kindG.2.symm, ?_⟩
  · rw [nodesOfFlow_find?_id hn, nodesOfFlow_find?_id hm]
  · rw [properties_of_other otherF hn, properties_of_other otherG hm]

theorem compatible_iff_separate (apart : functionId f.function ≠ functionId g.function) :
    Compatible f g ↔ Separate f g :=
  ⟨fun h => ⟨h.not_mem_ids apart, h.symm.not_mem_ids apart.symm, fun _ => h.useOf?_eq⟩,
    Separate.compatible⟩

theorem node?_append (flows flows' : List CodeFlow) (id : String) :
    (ofCodeFlows (flows ++ flows')).node? id =
      ((ofCodeFlows flows).node? id).or ((ofCodeFlows flows').node? id) := by
  rw [ofCodeFlows_node?, ofCodeFlows_node?, ofCodeFlows_node?, List.findSome?_append]

theorem node?_eq_none_iff : (ofCodeFlows flows).node? id = none ↔ ∀ f ∈ flows, id ∉ f.ids := by
  rw [ofCodeFlows_node?, List.findSome?_eq_none_iff]
  refine forall₂_congr fun f _ => ?_
  rw [← exists_nodesOfFlow_find?_iff, ← Option.isSome_iff_exists, Option.not_isSome_iff_eq_none]

theorem exists_agreeing (members : ∀ f, f ∈ flows ↔ f ∈ flows')
    (compatible : ∀ f ∈ flows, ∀ g ∈ flows, Compatible f g)
    (hn : n ∈ (ofCodeFlows flows).nodes) : ∃ m ∈ (ofCodeFlows flows').nodes, n.Agrees m := by
  obtain ⟨f, hf, first⟩ := exists_flow_of_node? (node?_of_mem (ofCodeFlows_ids_nodup flows) hn)
  rcases found : (ofCodeFlows flows').node? n.id with _ | m
  · have unnamed := node?_eq_none_iff.mp found f ((members f).mp hf)
    exact absurd (exists_nodesOfFlow_find?_iff.mp ⟨n, first⟩) unnamed
  · obtain ⟨g, hg, first'⟩ := exists_flow_of_node? found
    exact ⟨m, List.mem_of_find?_eq_some found,
      compatible f hf g ((members g).mpr hg) n.id n m first first'⟩

theorem sameNodes_of_perm (p : flows'.Perm flows)
    (compatible : ∀ f ∈ flows, ∀ g ∈ flows, Compatible f g) :
    SameNodes (ofCodeFlows flows) (ofCodeFlows flows') := by
  have members : ∀ f, f ∈ flows ↔ f ∈ flows' := fun f => p.mem_iff.symm
  refine ⟨fun n hn => exists_agreeing members compatible hn, fun m hm => ?_⟩
  have compatible' : ∀ f ∈ flows', ∀ g ∈ flows', Compatible f g :=
    fun f hf g hg => compatible f ((members f).mpr hf) g ((members g).mpr hg)
  obtain ⟨n, hn, agrees⟩ := exists_agreeing (fun f => (members f).symm) compatible' hm
  exact ⟨n, hn, agrees.symm⟩

/-- With a flow put first, the diagram has each first node of that flow. -/
theorem exists_agreeing_of_first (hf : f ∈ flows)
    (same : ∀ flows', flows'.Perm flows → SameNodes (ofCodeFlows flows) (ofCodeFlows flows'))
    (first : (nodesOfFlow f).find? (·.id = id) = some n) :
    ∃ k ∈ (ofCodeFlows flows).nodes, k.Agrees n := by
  obtain ⟨before, after, rfl⟩ := List.append_of_mem hf
  have found : (ofCodeFlows (f :: (before ++ after))).node? id = some n := by
    rw [ofCodeFlows_node?, List.findSome?_cons, first]
  exact (same _ List.perm_middle.symm).2 n (List.mem_of_find?_eq_some found)

theorem compatible_of_sameNodes
    (same : ∀ flows', flows'.Perm flows → SameNodes (ofCodeFlows flows) (ofCodeFlows flows'))
    (hf : f ∈ flows) (hg : g ∈ flows) : Compatible f g := by
  intro id n m hn hm
  obtain ⟨k, hk, agrees⟩ := exists_agreeing_of_first hf same hn
  obtain ⟨k', hk', agrees'⟩ := exists_agreeing_of_first hg same hm
  have ids : k.id = k'.id := by
    rw [agrees.id_eq, agrees'.id_eq, nodesOfFlow_find?_id hn, nodesOfFlow_find?_id hm]
  obtain rfl := List.inj_on_of_nodup_map (ofCodeFlows_ids_nodup flows) hk hk' ids
  exact agrees.symm.trans agrees'

theorem pairwise_apart (distinct : (flows.map fun f => functionId f.function).Nodup) :
    flows.Pairwise fun f g => functionId f.function ≠ functionId g.function :=
  List.pairwise_map.mp (List.nodup_iff_pairwise_ne.mp distinct)

/-- The nodes are the same in every order just if any two flows are separate. -/
theorem sameNodes_iff (distinct : (flows.map fun f => functionId f.function).Nodup) :
    (∀ flows', flows'.Perm flows → SameNodes (ofCodeFlows flows) (ofCodeFlows flows')) ↔
      flows.Pairwise Separate := by
  constructor
  · intro same
    refine (pairwise_apart distinct).imp_of_mem fun hf hg apart => ?_
    exact (compatible_iff_separate apart).mp (compatible_of_sameNodes same hf hg)
  · intro separate flows' p
    refine sameNodes_of_perm p fun f hf g hg => ?_
    have symmetric : Std.Symm Compatible := ⟨fun _ _ => Compatible.symm⟩
    have compatible : flows.Pairwise Compatible := separate.imp Separate.compatible
    by_cases same : f = g
    · subst same
      intro id n m hn hm
      obtain rfl := Option.some.inj (hn.symm.trans hm)
      exact ⟨rfl, rfl, rfl, rfl⟩
    · exact compatible.forall hf hg same

/-- The node of a function has its record just if no flow before that one names the function. -/
theorem carriesRecord_iff {before after : List CodeFlow}
    (distinct : ((before ++ f :: after).map fun f => functionId f.function).Nodup) :
    CarriesRecord (ofCodeFlows (before ++ f :: after)) f ↔
      ∀ g ∈ before, functionId f.function ∉ g.ids := by
  have ids := ofCodeFlows_ids_nodup (before ++ f :: after)
  constructor
  · rintro ⟨n, hn, same, record⟩ g hg named
    obtain ⟨k, hk⟩ := Option.ne_none_iff_exists'.mp fun none =>
      node?_eq_none_iff.mp none g hg named
    have found := node?_append before (f :: after) (functionId f.function)
    rw [hk, Option.some_or, ← same, node?_of_mem ids hn] at found
    obtain rfl := Option.some.inj found
    obtain ⟨g', hg', first⟩ := exists_flow_of_node? hk
    have apart := (List.pairwise_append.mp (pairwise_apart distinct)).2.2 g' hg' f
      List.mem_cons_self
    exact f.toJson_ne_empty (record.symm.trans (properties_of_other apart first))
  · intro unnamed
    have found : (ofCodeFlows (before ++ f :: after)).node? (functionId f.function) =
        some (recordNode f) := by
      rw [node?_append, node?_eq_none_iff.mpr unnamed, Option.none_or, ofCodeFlows_node?,
        List.findSome?_cons, nodesOfFlow_find?_own]
    obtain ⟨mem, same⟩ := (Node.find?_eq_some_iff ids).mp found
    exact ⟨recordNode f, mem, same, rfl⟩

theorem carryRecords_iff (distinct : (flows.map fun f => functionId f.function).Nodup) :
    (∀ f ∈ flows, CarriesRecord (ofCodeFlows flows) f) ↔
      flows.Pairwise fun g f => functionId f.function ∉ g.ids := by
  constructor
  · intro carry
    refine pairwise_of_before fun before f after hl => ?_
    subst hl
    exact (carriesRecord_iff distinct).mp (carry f (by simp))
  · intro unnamed f hf
    obtain ⟨before, after, rfl⟩ := List.append_of_mem hf
    refine (carriesRecord_iff distinct).mpr fun g hg => ?_
    exact (List.pairwise_append.mp unnamed).2.2 g hg f List.mem_cons_self

/-- Where no two flows are of one function, the nodes are the same in every order of the flows just
if any two flows are separate, and every function with a flow has its record just if none of them is
named in a flow before its own. -/
theorem ofCodeFlows_orderFree_iff (distinct : (flows.map fun f => functionId f.function).Nodup) :
    ((∀ flows', flows'.Perm flows → SameNodes (ofCodeFlows flows) (ofCodeFlows flows')) ↔
      flows.Pairwise Separate) ∧
    ((∀ f ∈ flows, CarriesRecord (ofCodeFlows flows) f) ↔
      flows.Pairwise fun g f => functionId f.function ∉ g.ids) :=
  ⟨sameNodes_iff distinct, carryRecords_iff distinct⟩

/-- Two functions that use the same helper, the same bank and the same store. -/
def paymentFlows : List CodeFlow :=
  [⟨"charge", ["log.line"], ["bank.example"], ["payments"]⟩,
    ⟨"refund", ["log_line"], ["bank.example"], ["payments", "refunds"]⟩]

theorem paymentFlows_orderFree :
    (paymentFlows.map fun f => functionId f.function).Nodup ∧
    (∀ flows', flows'.Perm paymentFlows →
      SameNodes (ofCodeFlows paymentFlows) (ofCodeFlows flows')) ∧
    ∀ f ∈ paymentFlows, CarriesRecord (ofCodeFlows paymentFlows) f := by
  have distinct : (paymentFlows.map fun f => functionId f.function).Nodup := by decide
  obtain ⟨order, records⟩ := ofCodeFlows_orderFree_iff distinct
  exact ⟨distinct, order.mpr (by decide), records.mpr (by decide)⟩

theorem CarriesRecord.of_sameNodes {d d' : Diagram} (same : SameNodes d d')
    (h : CarriesRecord d' f) : CarriesRecord d f := by
  obtain ⟨m, hm, id, record⟩ := h
  obtain ⟨n, hn, agrees⟩ := same.2 m hm
  exact ⟨n, hn, agrees.id_eq.trans id, agrees.properties_eq.trans record⟩

/-- A function, and after it one that it calls. -/
def callerFirst : List CodeFlow :=
  [⟨"processPayment", ["saveTransaction"], [], []⟩, ⟨"saveTransaction", [], [], ["payments_db"]⟩]

/-- The function that is called has its record only if its flow comes first. -/
theorem callerFirst_loses_record :
    (callerFirst.map fun f => functionId f.function).Nodup ∧
    callerFirst.reverse.Perm callerFirst ∧
    ¬ SameNodes (ofCodeFlows callerFirst) (ofCodeFlows callerFirst.reverse) ∧
    ¬ ∀ f ∈ callerFirst, CarriesRecord (ofCodeFlows callerFirst) f := by
  have distinct : (callerFirst.map fun f => functionId f.function).Nodup := by decide
  have reversed : (callerFirst.reverse.map fun f => functionId f.function).Nodup := by decide
  have lost : ¬ ∀ f ∈ callerFirst, CarriesRecord (ofCodeFlows callerFirst) f :=
    fun records => absurd ((carryRecords_iff distinct).mp records) (by decide)
  have kept := (carryRecords_iff reversed).mpr (by decide)
  refine ⟨distinct, List.reverse_perm _, fun same => lost fun f hf => ?_, lost⟩
  exact (kept f (List.mem_reverse.mpr hf)).of_sameNodes same

end Diagram

end CloudThreat
