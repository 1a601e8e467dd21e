import WikiGateway.Proofs.Action
import WikiGateway.Proofs.Links
import WikiGateway.Source.Table

/-! Questions put to a source of tables in which no trouble is laid out, and where its links
lead. -/
namespace WikiGateway.Table

variable {τ : Type} [Instant τ] {α : Type} {t : Table τ}

/-- The world after a call: the call was noted, and took its time. -/
def after (t : Table τ) (call : Call) (w : Session τ) : Session τ :=
  ⟨Instant.add w.now t.cost, w.calls.push call⟩

theorem runIn_ask (h : t.troubles = []) (call : Call) (answer : α) (w : Session τ) :
    (t.ask call answer).runIn w = (.ok answer, t.after call w) := by
  have hnone : t.troubleFor call.question call.argument = none := by simp [troubleFor, h]
  rw [ask, hnone]
  rfl

/-- The links of a page, as the tables have them. -/
def linksOf (t : Table τ) (title : String) : List String := (t.links.lookup title).getD []

theorem runIn_linksOn (h : t.troubles = []) (title : String) (w : Session τ) :
    (t.source.linksOn title).runIn w = (.ok (t.linksOf title), t.after ⟨.linksOn, title, none⟩ w) :=
  runIn_ask h _ _ w

omit [Instant τ] in
/-- The links of tables lead to no more pages than are written down there. -/
theorem finite_reachable (t : Table τ) (start : String) :
    {p | Links.Reachable t.linksOf start p}.Finite := by
  have hlinked (p q : String) (hq : q ∈ t.linksOf p) : q ∈ t.links.flatMap Prod.snd := by
    cases hp : t.links.lookup p with
    | none => simp [linksOf, hp] at hq
    | some ls =>
      obtain ⟨before, after, hlinks, -⟩ := List.lookup_eq_some_iff.mp hp
      rw [linksOf, hp] at hq
      have hmem : (p, ls) ∈ t.links := by simp [hlinks]
      exact List.mem_flatMap.mpr ⟨(p, ls), hmem, hq⟩
  refine (List.finite_toSet (start :: t.links.flatMap Prod.snd)).subset fun p hp => ?_
  exact hp.mem_of_closed List.mem_cons_self fun p _ q hq => List.mem_cons_of_mem _ (hlinked p q hq)

end WikiGateway.Table
