import Mathlib.Algebra.BigOperators.Group.List.Basic
import Mathlib.Data.Rat.Floor
import WikiGateway.Budget
import WikiGateway.Instant.Exact
import WikiGateway.Proofs.Named

/-! A budget under a clock that never goes back, started and marked any number of times: what is
asked of it directly, what it reports and what it has noted tell of the same time. -/
namespace WikiGateway

namespace Budget

variable {τ : Type}

/-- What happens to a budget under a clock: it is started, a mark is to be noted, or time passes. -/
inductive Occurrence (τ : Type)
  | start
  | mark (name : String)
  | wait (span : τ)

namespace Occurrence

/-- The name of a mark that is to be noted. -/
def name? : Occurrence τ → Option String
  | mark name => some name
  | _ => none

/-- The time that passes. -/
def span? : Occurrence τ → Option τ
  | wait span => some span
  | _ => none

end Occurrence

/-- A budget and the time on its clock. -/
structure Clocked (τ : Type) where
  budget : Budget τ
  now : τ

namespace Clocked

section General

variable [Instant τ] {c : Clocked τ} {os : List (Occurrence τ)} {name : String} {t : τ}

/-- A budget that was not started yet. -/
def unstarted (total now : τ) : Clocked τ := ⟨.ofTotal total, now⟩

/-- A mark that is refused leaves the budget as it is. -/
def after (c : Clocked τ) : Occurrence τ → Clocked τ
  | .start => { c with budget := c.budget.start c.now }
  | .mark name => { c with budget := ((c.budget.mark name c.now).toOption).getD c.budget }
  | .wait span => { c with now := Instant.add c.now span }

def afterAll (c : Clocked τ) (os : List (Occurrence τ)) : Clocked τ := os.foldl after c

/-- The time that the budget says has passed since its start. -/
def elapsed (c : Clocked τ) : τ := c.budget.elapsed c.now

theorem afterAll_append (c : Clocked τ) (os later : List (Occurrence τ)) :
    c.afterAll (os ++ later) = (c.afterAll os).afterAll later := List.foldl_append

theorem elapsed_of_started (h : c.budget.startedAt = some t) :
    c.elapsed = Instant.sub c.now t := by
  rw [elapsed, Budget.elapsed, h]

theorem mark_of_unstarted (h : c.budget.startedAt = none) (name : String) :
    c.budget.mark name c.now = .error (.broken "Budget not started. Call start() first.") ∧
      c.after (.mark name) = c := by
  have hrefused : c.budget.mark name c.now =
      .error (.broken "Budget not started. Call start() first.") := by
    rw [Budget.mark, h]
  exact ⟨hrefused, by rw [after, hrefused]; rfl⟩

/-- A mark of a budget that was started takes down the time elapsed. -/
theorem after_mark (h : c.budget.startedAt = some t) (name : String) :
    c.after (.mark name) =
      { c with budget := { c.budget with marks := c.budget.marks.insert name c.elapsed } } := by
  obtain ⟨⟨total, startedAt, marks⟩, now⟩ := c
  obtain rfl : startedAt = some t := h
  rfl

theorem total_after (c : Clocked τ) (o : Occurrence τ) :
    (c.after o).budget.total = c.budget.total := by
  cases o with
  | start => rfl
  | wait span => rfl
  | mark name =>
    cases h : c.budget.startedAt with
    | none => rw [(mark_of_unstarted h name).2]
    | some t => rw [after_mark h]

theorem total_afterAll (c : Clocked τ) (os : List (Occurrence τ)) :
    (c.afterAll os).budget.total = c.budget.total := by
  induction os generalizing c with
  | nil => rfl
  | cons o os ih => exact (ih (c.after o)).trans (c.total_after o)

/-- Nothing but a start changes when a budget was started. -/
theorem startedAt_after {o : Occurrence τ} (h : .start ≠ o) :
    (c.after o).budget.startedAt = c.budget.startedAt := by
  cases o with
  | start => exact absurd rfl h
  | wait span => rfl
  | mark name =>
    cases hstarted : c.budget.startedAt with
    | none => rw [(mark_of_unstarted hstarted name).2, hstarted]
    | some t => rw [after_mark hstarted, hstarted]

theorem startedAt_afterAll (h : .start ∉ os) :
    (c.afterAll os).budget.startedAt = c.budget.startedAt := by
  induction os generalizing c with
  | nil => rfl
  | cons o os ih =>
    obtain ⟨ho, hos⟩ := List.ne_and_not_mem_of_not_mem_cons h
    exact (ih hos).trans (startedAt_after ho)

/-- Without a start there are no marks. -/
theorem marks_afterAll_unstarted (h : .start ∉ os) (hstarted : c.budget.startedAt = none) :
    (c.afterAll os).budget.marks = c.budget.marks := by
  induction os generalizing c with
  | nil => rfl
  | cons o os ih =>
    obtain ⟨ho, hos⟩ := List.ne_and_not_mem_of_not_mem_cons h
    refine (ih hos ((startedAt_after ho).trans hstarted)).trans ?_
    cases o with
    | start => exact absurd rfl ho
    | wait span => rfl
    | mark name => rw [(mark_of_unstarted hstarted name).2]

/-- The marks of a budget that was started keep their places, and new ones come last. -/
theorem keys_marks_afterAll (h : .start ∉ os) (hstarted : c.budget.startedAt = some t) :
    (c.afterAll os).budget.marks.keys =
      (c.budget.marks.keys ++ os.filterMap Occurrence.name?).eraseDups := by
  induction os generalizing c with
  | nil =>
    rw [List.filterMap_nil, List.append_nil, eraseDups_eq_self c.budget.marks.nodup_keys]
    rfl
  | cons o os ih =>
    obtain ⟨ho, hos⟩ := List.ne_and_not_mem_of_not_mem_cons h
    have hrest := ih hos ((startedAt_after ho).trans hstarted)
    cases o with
    | start => exact absurd rfl ho
    | wait span => exact hrest
    | mark name =>
      refine hrest.trans ?_
      have hnames : (.mark name :: os).filterMap Occurrence.name? =
          name :: os.filterMap Occurrence.name? := rfl
      rw [after_mark hstarted, OrderedMap.keys_insert, hnames]
      by_cases hknown : name ∈ c.budget.marks.keys
      · rw [if_pos hknown, eraseDups_append_cons hknown]
      · rw [if_neg hknown, List.append_assoc, List.singleton_append]

/-- A mark stays as it is until it is noted anew or the budget is started again. -/
theorem find?_marks_afterAll (h : .start ∉ os) (hname : .mark name ∉ os) :
    (c.afterAll os).budget.marks.find? name = c.budget.marks.find? name := by
  induction os generalizing c with
  | nil => rfl
  | cons o os ih =>
    obtain ⟨ho, hos⟩ := List.ne_and_not_mem_of_not_mem_cons h
    obtain ⟨hother, hrest⟩ := List.ne_and_not_mem_of_not_mem_cons hname
    refine (ih hos hrest).trans ?_
    cases o with
    | start => exact absurd rfl ho
    | wait span => rfl
    | mark other =>
      have hne : name ≠ other := fun he => hother (congrArg Occurrence.mark he)
      cases hstarted : c.budget.startedAt with
      | none => rw [(mark_of_unstarted hstarted other).2]
      | some t => rw [after_mark hstarted, OrderedMap.find?_insert, if_neg hne]

/-- The last mark of a name holds the time that was elapsed when it was noted. -/
theorem find?_marks_last {first rest : List (Occurrence τ)}
    (h : .start ∉ first ++ .mark name :: rest) (hname : .mark name ∉ rest)
    (hstarted : c.budget.startedAt = some t) :
    (c.afterAll (first ++ .mark name :: rest)).budget.marks.find? name =
      some (c.afterAll first).elapsed := by
  have hfirst : .start ∉ first := fun hmem => h (List.mem_append_left _ hmem)
  have hrest : .start ∉ rest := fun hmem =>
    h (List.mem_append_right _ (List.mem_cons_of_mem _ hmem))
  have hnoted := after_mark ((startedAt_afterAll hfirst).trans hstarted) name
  have hsplit : c.afterAll (first ++ .mark name :: rest) =
      ((c.afterAll first).after (.mark name)).afterAll rest := c.afterAll_append _ _
  rw [hsplit, find?_marks_afterAll hrest hname, hnoted, OrderedMap.find?_insert, if_pos rfl]

end General

end Clocked

section Exact

variable [Field τ] [LinearOrder τ] {os : List (Occurrence τ)}

/-- The clock never goes back. -/
def Forward (os : List (Occurrence τ)) : Prop := ∀ span, .wait span ∈ os → 0 ≤ span

theorem Forward.tail {o : Occurrence τ} (h : Forward (o :: os)) : Forward os :=
  fun span hmem => h span (List.mem_cons_of_mem o hmem)

namespace Clocked

variable [FloorSemiring τ] {c : Clocked τ} {t : τ}

/-- Time passes only as it is waited for. -/
theorem now_afterAll (c : Clocked τ) (os : List (Occurrence τ)) :
    (c.afterAll os).now = c.now + (os.filterMap Occurrence.span?).sum := by
  induction os generalizing c with
  | nil => exact (add_zero _).symm
  | cons o os ih =>
    refine (ih (c.after o)).trans ?_
    cases o with
    | start => rfl
    | mark name => rfl
    | wait span =>
      have hspans : (.wait span :: os).filterMap Occurrence.span? =
          span :: os.filterMap Occurrence.span? := rfl
      rw [hspans, List.sum_cons, ← add_assoc]
      rfl

/-- Since its last start, the time that a budget says has passed is the time waited for. -/
theorem elapsed_afterAll (h : .start ∉ os) (hstarted : c.budget.startedAt = some c.now) :
    (c.afterAll os).elapsed = (os.filterMap Occurrence.span?).sum := by
  rw [elapsed_of_started ((startedAt_afterAll h).trans hstarted), now_afterAll,
    Instant.exact_sub, add_sub_cancel_left]

/-- A budget was started no later than now, and its marks lie between its start and now. -/
structure Timely (c : Clocked τ) : Prop where
  elapsed_nonneg : 0 ≤ c.elapsed
  marks_within : ∀ name t, c.budget.marks.find? name = some t → 0 ≤ t ∧ t ≤ c.elapsed

theorem timely_unstarted (total now : τ) : Timely (unstarted total now) where
  elapsed_nonneg := le_rfl
  marks_within := by
    intro name t ht
    cases ht

theorem elapsed_start (c : Clocked τ) : (c.after .start).elapsed = 0 := sub_self c.now

variable [IsStrictOrderedRing τ]

theorem elapsed_le_wait {span : τ} (hspan : 0 ≤ span) (c : Clocked τ) :
    c.elapsed ≤ (c.after (.wait span)).elapsed := by
  cases hstarted : c.budget.startedAt with
  | none => simp [elapsed, after, Budget.elapsed, hstarted]
  | some t => simpa [elapsed, after, Budget.elapsed, hstarted] using hspan

theorem Timely.after (h : Timely c) {o : Occurrence τ} (ho : Forward [o]) : Timely (c.after o) := by
  cases o with
  | start =>
    refine ⟨(elapsed_start c).ge, ?_⟩
    intro name t ht
    cases ht
  | mark name =>
    cases hstarted : c.budget.startedAt with
    | none => rwa [(mark_of_unstarted hstarted name).2]
    | some t =>
      rw [after_mark hstarted]
      refine ⟨h.elapsed_nonneg, ?_⟩
      intro other u hu
      rw [OrderedMap.find?_insert] at hu
      split at hu
      · obtain rfl : c.elapsed = u := Option.some.inj hu
        exact ⟨h.elapsed_nonneg, le_rfl⟩
      · exact h.marks_within other u hu
  | wait span =>
    have hle := elapsed_le_wait (ho span (List.mem_singleton_self _)) c
    refine ⟨h.elapsed_nonneg.trans hle, ?_⟩
    intro name t ht
    obtain ⟨hfrom, hto⟩ := h.marks_within name t ht
    exact ⟨hfrom, hto.trans hle⟩

theorem Timely.afterAll (h : Timely c) (hos : Forward os) : Timely (c.afterAll os) := by
  induction os generalizing c with
  | nil => exact h
  | cons o os ih =>
    have ho : Forward [o] := fun span hmem =>
      hos span (List.mem_cons.mpr (.inl (List.mem_singleton.mp hmem)))
    exact ih (h.after ho) hos.tail

/-- Until the next start the time elapsed does not go back. -/
theorem elapsed_le_afterAll (hos : Forward os) (h : .start ∉ os) (c : Clocked τ) :
    c.elapsed ≤ (c.afterAll os).elapsed := by
  induction os generalizing c with
  | nil => exact le_rfl
  | cons o os ih =>
    obtain ⟨ho, hrest⟩ := List.ne_and_not_mem_of_not_mem_cons h
    refine le_trans ?_ (ih hos.tail hrest (c.after o))
    cases o with
    | start => exact absurd rfl ho
    | wait span => exact elapsed_le_wait (hos span List.mem_cons_self) c
    | mark name =>
      cases hstarted : c.budget.startedAt with
      | none => rw [(mark_of_unstarted hstarted name).2]
      | some t => rw [after_mark hstarted]; rfl

theorem remaining_eq (c : Clocked τ) :
    c.budget.remaining c.now = max 0 (c.budget.total - c.elapsed) := by
  have hleft : c.budget.remaining c.now =
      if 0 < c.budget.total - c.elapsed then c.budget.total - c.elapsed else 0 := by
    simp [Budget.remaining, elapsed]
  rw [hleft]
  split
  · rename_i hmore
    exact (max_eq_right hmore.le).symm
  · rename_i hmore
    exact (max_eq_left (not_lt.mp hmore)).symm

omit [IsStrictOrderedRing τ] in
theorem isExhausted_iff_le (c : Clocked τ) :
    c.budget.isExhausted c.now = true ↔ c.budget.total ≤ c.elapsed := decide_eq_true_iff

theorem isExhausted_iff_remaining_eq (c : Clocked τ) :
    c.budget.isExhausted c.now = true ↔ c.budget.remaining c.now = 0 := by
  rw [isExhausted_iff_le, remaining_eq, max_eq_left_iff, sub_nonpos]

/-- A budget that is used up stays so until its next start. -/
theorem isExhausted_afterAll (hos : Forward os) (h : .start ∉ os)
    (hexhausted : c.budget.isExhausted c.now = true) :
    (c.afterAll os).budget.isExhausted (c.afterAll os).now = true := by
  rw [isExhausted_iff_le] at hexhausted ⊢
  rw [total_afterAll]
  exact hexhausted.trans (elapsed_le_afterAll hos h c)

end Clocked

variable [FloorSemiring τ] [IsStrictOrderedRing τ]

/-- A budget under a clock that never goes back, whatever happens to it. Before its first start no
time is elapsed, and marks are refused, so that there are none. From then on the time elapsed is the
time since the last start, what remains is the rest of the total, none remains just when the budget
is used up, and once used up it stays so until its next start. Every mark lies between the last
start and now, holds the time that was elapsed when its name was last noted since that start, and
the names stand in the order in which they first came; a start forgets them all. A report tells the
same. -/
theorem report_afterAll {total : τ} (htotal : 0 < total) (now : τ) (hos : Forward os) :
    let c := (Clocked.unstarted total now).afterAll os
    (.start ∉ os →
      c.elapsed = 0 ∧ c.budget.remaining c.now = total ∧ c.budget.isExhausted c.now = false ∧
        c.budget.marks = .empty ∧
        ∀ name, c.budget.mark name c.now =
            .error (.broken "Budget not started. Call start() first.") ∧
          c.after (.mark name) = c) ∧
    (.start ∈ os →
      0 ≤ c.elapsed ∧ c.budget.remaining c.now = max 0 (total - c.elapsed) ∧
        (c.budget.isExhausted c.now = true ↔ c.budget.remaining c.now = 0) ∧
        ∀ later, Forward later → .start ∉ later → c.budget.isExhausted c.now = true →
          (c.afterAll later).budget.isExhausted (c.afterAll later).now = true) ∧
    (∀ before run, os = before ++ .start :: run → .start ∉ run →
      c.elapsed = (run.filterMap Occurrence.span?).sum ∧
        c.budget.marks.keys = (run.filterMap Occurrence.name?).eraseDups ∧
        ∀ first name rest, run = first ++ .mark name :: rest → .mark name ∉ rest →
          c.budget.marks.find? name =
            some ((Clocked.unstarted total now).afterAll (before ++ .start :: first)).elapsed) ∧
    (∀ name t, c.budget.marks.find? name = some t → 0 ≤ t ∧ t ≤ c.elapsed) ∧
    (c.after .start).budget.marks = .empty ∧
    c.budget.report c.now =
      ⟨total, c.elapsed, c.budget.remaining c.now, c.budget.marks, c.budget.isExhausted c.now⟩ := by
  intro c
  have htimely : Clocked.Timely c := (Clocked.timely_unstarted total now).afterAll hos
  have hsame : c.budget.total = total := Clocked.total_afterAll _ os
  refine ⟨fun hnone => ?_, fun _ => ⟨htimely.elapsed_nonneg, ?_, c.isExhausted_iff_remaining_eq,
    fun later hlater hstart => Clocked.isExhausted_afterAll hlater hstart⟩,
    fun before run hsplit hrun => ?_, htimely.marks_within, rfl, ?_⟩
  · have hunstarted : c.budget.startedAt = none := Clocked.startedAt_afterAll hnone
    have helapsed : c.elapsed = 0 := by
      rw [Clocked.elapsed, Budget.elapsed, hunstarted]
      rfl
    have hleft : c.budget.remaining c.now = total := by
      rw [Clocked.remaining_eq, hsame, helapsed, sub_zero, max_eq_right htotal.le]
    refine ⟨helapsed, hleft, ?_, Clocked.marks_afterAll_unstarted hnone rfl,
      Clocked.mark_of_unstarted hunstarted⟩
    rw [← Bool.not_eq_true, Clocked.isExhausted_iff_remaining_eq, hleft]
    exact htotal.ne'
  · rw [Clocked.remaining_eq, hsame]
  · -- The run since the last start begins with no time elapsed and no marks.
    let s := ((Clocked.unstarted total now).afterAll before).after .start
    have hrest (later : List (Occurrence τ)) :
        (Clocked.unstarted total now).afterAll (before ++ .start :: later) = s.afterAll later :=
      Clocked.afterAll_append _ _ _
    have hc : c = s.afterAll run := (congrArg _ hsplit).trans (hrest run)
    have hstarted : s.budget.startedAt = some s.now := rfl
    rw [hc]
    refine ⟨Clocked.elapsed_afterAll hrun hstarted, Clocked.keys_marks_afterAll hrun hstarted, ?_⟩
    rintro first name rest rfl hname
    rw [hrest]
    exact Clocked.find?_marks_last hrun hname hstarted
  · rw [Budget.report, hsame]
    rfl

end Exact

/-- A budget of five seconds that is marked too early, started and used up. -/
def usedUp : List (Occurrence ℚ) :=
  [.mark "early", .start, .wait 2, .mark "links", .mark "pages", .wait 4, .mark "links"]

/-- After another start one name is noted twice, with another between. -/
def rerun : List (Occurrence ℚ) :=
  [.wait 1, .mark "pages", .wait (1 / 2), .mark "links", .wait 3, .mark "pages"]

theorem forward_restarted : Forward (usedUp ++ .start :: rerun) := by
  intro span hmem
  have hspans : ∀ t ∈ (usedUp ++ .start :: rerun).filterMap Occurrence.span?, 0 ≤ t := by
    decide +kernel
  exact hspans span (List.mem_filterMap.mpr ⟨_, hmem, rfl⟩)

theorem report_afterAll_restarted :
    let c := (Clocked.unstarted 5 100).afterAll (usedUp ++ .start :: rerun)
    (0 : ℚ) < 5 ∧ Forward (usedUp ++ .start :: rerun) ∧ c.elapsed = 9 / 2 ∧
      c.budget.remaining c.now = 1 / 2 ∧ c.budget.isExhausted c.now = false ∧
      c.budget.marks.keys = ["pages", "links"] ∧ c.budget.marks.find? "links" = some (3 / 2) ∧
      c.budget.marks.find? "pages" = some c.elapsed := by
  intro c
  have htotal : (0 : ℚ) < 5 := by norm_num
  obtain ⟨-, hstarted, hsince, -⟩ := report_afterAll htotal 100 forward_restarted
  obtain ⟨-, hremaining, hexhausted, -⟩ := hstarted (by simp)
  obtain ⟨helapsed, hkeys, hmarks⟩ := hsince usedUp rerun rfl (by simp [rerun])
  have hlinks := hmarks (rerun.take 3) "links" (rerun.drop 4) rfl (by simp [rerun])
  have hpages := hmarks (rerun.take 5) "pages" [] rfl (by simp)
  have hspent : c.elapsed = 9 / 2 := helapsed.trans (by decide +kernel)
  have hleft : c.budget.remaining c.now = 1 / 2 := by
    refine hremaining.trans ?_
    rw [hspent]
    norm_num
  refine ⟨htotal, forward_restarted, hspent, hleft, ?_, hkeys.trans (by decide +kernel),
    hlinks.trans (by decide +kernel), hpages⟩
  rw [← Bool.not_eq_true, hexhausted, hleft]
  norm_num

end Budget

end WikiGateway
