import WikiGateway.Cache.Server
import WikiGateway.Proofs.Action

/-! What the commands of a server come to that refuses none of them. -/
namespace WikiGateway.Server

open WikiGateway.Action

variable {τ : Type} {s : Server τ} {name : String} {values : OrderedMap (String × τ)}
  {ms : OrderedMap τ}

/-- The server refuses no command, and this is what it holds under keys and in one of its sets. -/
structure Holds (s : Server τ) (name : String) (values : OrderedMap (String × τ))
    (ms : OrderedMap τ) : Prop where
  willing : ∀ n command, s.refuses n command = false
  values_eq : s.values = values
  members_eq : s.members name = ms

theorem holds_empty (name : String) :
    (empty fun _ _ => false : Server τ).Holds name .empty .empty :=
  ⟨fun _ _ => rfl, rfl, rfl⟩

theorem members_insert (s : Server τ) (name : String) (ms : OrderedMap τ) :
    ({ s with sets := s.sets.insert name ms } : Server τ).members name = ms := by
  simp [members, OrderedMap.find?_insert]

theorem Holds.withValues (h : s.Holds name values ms) (values' : OrderedMap (String × τ)) :
    ({ s with values := values' } : Server τ).Holds name values' ms :=
  ⟨h.willing, rfl, h.members_eq⟩

theorem Holds.withMembers (h : s.Holds name values ms) (ms' : OrderedMap τ) :
    ({ s with sets := s.sets.insert name ms' } : Server τ).Holds name values ms' :=
  ⟨h.willing, h.values_eq, members_insert s name ms'⟩

theorem Holds.issue (h : s.Holds name values ms) (c : Command τ) :
    ∃ t, (issue c).runIn s = (.ok (), t) ∧ t.Holds name values ms := by
  have hwilling := h.willing s.log.size c.name
  refine ⟨{ s with log := s.log.push c }, ?_, h.willing, h.values_eq, h.members_eq⟩
  simp [Server.issue, runIn_bind, hwilling]

theorem Holds.zcard (h : s.Holds name values ms) :
    ∃ t, (zcard name).runIn s = (.ok ms.size, t) ∧ t.Holds name values ms := by
  obtain ⟨t, hissue, ht⟩ := h.issue (.zcard name)
  refine ⟨t, ?_, ht⟩
  simp only [Server.zcard, runIn_bind, hissue, runIn_getThe, runIn_pure, ht.members_eq]

theorem Holds.zrem (h : s.Holds name values ms) (member : String) :
    ∃ n t, (zrem name member).runIn s = (.ok n, t) ∧ t.Holds name values (ms.erase member) := by
  obtain ⟨t, hissue, ht⟩ := h.issue (.zrem name member)
  refine ⟨if ms.contains member then 1 else 0, _, ?_, ht.withMembers (ms.erase member)⟩
  simp only [Server.zrem, runIn_bind, hissue, runIn_getThe, runIn_set, runIn_pure, ht.members_eq]

variable [Instant τ]

/-- The value of a key, if it has not expired. -/
def live? (values : OrderedMap (String × τ)) (key : String) (now : τ) : Option String :=
  match values.find? key with
  | none => none
  | some (value, expiry) => if Ranked.lt now expiry then some value else none

theorem Holds.get (h : s.Holds name values ms) (key : String) (now : τ) :
    ∃ t, (get key now).runIn s = (.ok (live? values key now), t) ∧ t.Holds name values ms := by
  obtain ⟨t, hissue, ht⟩ := h.issue (.get key)
  refine ⟨t, ?_, ht⟩
  simp only [Server.get, runIn_bind, hissue, runIn_getThe, runIn_pure, ht.values_eq]
  rfl

/-- The members with the lowest scores, so many of them. -/
def lowest (ms : OrderedMap τ) (count : Int) : List String :=
  ((ms.entries.mergeSort scoredBefore).take count.toNat).map Prod.fst

theorem Holds.zpopmin (h : s.Holds name values ms) (count : Int) :
    ∃ t, (zpopmin name count).runIn s = (.ok (lowest ms count), t) ∧
      t.Holds name values ((lowest ms count).foldl OrderedMap.erase ms) := by
  obtain ⟨t, hissue, ht⟩ := h.issue (.zpopmin name count)
  refine ⟨_, ?_, ht.withMembers ((lowest ms count).foldl OrderedMap.erase ms)⟩
  simp only [Server.zpopmin, runIn_bind, hissue, runIn_getThe, runIn_set, runIn_pure,
    ht.members_eq, lowest]

theorem fst_foldl_erase {α β : Type} {f : OrderedMap α × β → String → OrderedMap α × β}
    (h : ∀ p k, (f p k).1 = p.1.erase k) (keys : List String) (p : OrderedMap α × β) :
    (keys.foldl f p).1 = keys.foldl OrderedMap.erase p.1 := by
  induction keys generalizing p with
  | nil => rfl
  | cons k keys ih => rw [List.foldl_cons, ih, h, List.foldl_cons]

theorem Holds.delete (h : s.Holds name values ms) (keys : List String) (now : τ) :
    ∃ n t, (delete keys now).runIn s = (.ok n, t) ∧
      t.Holds name (keys.foldl OrderedMap.erase values) ms := by
  obtain ⟨t, hissue, ht⟩ := h.issue (.delete keys)
  have hafter := ht.withValues (keys.foldl OrderedMap.erase values)
  simp only [Server.delete, runIn_bind, hissue, runIn_getThe, runIn_set, runIn_pure, ht.values_eq]
  rw [fst_foldl_erase (fun _ _ => rfl)]
  exact ⟨_, _, rfl, hafter⟩

theorem Holds.apply_setex {ttl : Int} {life : τ} (h : s.Holds name values ms)
    (hlife : Instant.seconds? ttl = some life) (key value : String) (now : τ) :
    ∃ t, apply now s (.setex key ttl value) = .ok t ∧
      t.Holds name (values.insert key (value, Instant.add now life)) ms := by
  refine ⟨_, ?_, h.withValues (values.insert key (value, Instant.add now life))⟩
  simp only [apply, hlife, h.values_eq]

theorem Holds.apply_zadd (h : s.Holds name values ms) (member : String) (score now : τ) :
    ∃ t, apply now s (.zadd name member score) = .ok t ∧
      t.Holds name values (ms.insert member score) := by
  refine ⟨_, ?_, h.withMembers (ms.insert member score)⟩
  simp only [apply, h.members_eq]

theorem Holds.apply_zremrangebyscore (h : s.Holds name values ms) (max now : τ) :
    ∃ t, apply now s (.zremrangebyscore name max) = .ok t ∧
      t.Holds name values
        (ms.filter fun _ score => !(Ranked.le Instant.zero score && Ranked.le score max)) := by
  refine ⟨_, ?_, h.withMembers _⟩
  simp only [apply, h.members_eq]

/-- Commands that can act have the effects of all of them, one after the other. -/
theorem runIn_applyAll {queue : List (Command τ)} {now : τ} {t : Server τ}
    (h : queue.foldlM (apply now) s = .ok t) :
    (do for c in queue do
          let s ← apply now (← getThe (Server τ)) c
          set s : Action (Server τ) Unit).runIn s = (.ok (), t) := by
  induction queue generalizing s with
  | nil =>
    obtain rfl : s = t := Except.ok.inj h
    rfl
  | cons c queue ih =>
    rw [List.foldlM_cons] at h
    cases hc : apply now s c with
    | error e =>
      rw [hc] at h
      cases h
    | ok s' =>
      rw [hc] at h
      simp only [List.forIn_cons, runIn_bind, runIn_getThe, runIn_lift, hc, runIn_set, runIn_pure]
      simpa only [runIn_bind, runIn_pure] using ih h

theorem Holds.execute (h : s.Holds name values ms) {queue : List (Command τ)} {now : τ}
    {P : Server τ → Prop}
    (hall : ∀ t : Server τ, t.Holds name values ms →
      ∃ t', queue.foldlM (apply now) t = .ok t' ∧ P t') :
    ∃ t, (execute queue now).runIn s = (.ok (), t) ∧ P t := by
  obtain ⟨u, hissue, hu⟩ := h.issue .execute
  obtain ⟨t, happlied, ht⟩ := hall u hu
  refine ⟨t, ?_, ht⟩
  rw [Server.execute, runIn_bind, hissue]
  exact runIn_applyAll happlied

end WikiGateway.Server
