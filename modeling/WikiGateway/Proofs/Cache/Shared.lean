import WikiGateway.Cache.Shared
import WikiGateway.Proofs.Cache.Server

/-! What a shared cache does about requests while its server refuses no command. -/
namespace WikiGateway.SharedCache

open WikiGateway.Action

variable {τ : Type}

theorem runIn_guarded {α : Type} (say : String → String) (act : Action (Server τ) α)
    (s : Server τ) : (guarded say act).runIn s =
      match act.runIn s with
      | (.ok a, t) => (.ok a, t)
      | (.error f, t) => (.error (.failure (.cacheConnection (say f.reason) [])), t) := by
  rw [guarded, runIn_tryCatch]
  rcases act.runIn s with ⟨_ | _, _⟩ <;> rfl

/-- What may be asked of a shared cache. -/
inductive Request
  | put (title text : String)
  | get (title : String)
  | delete (title : String)

def Request.title : Request → String
  | put title _ | get title | delete title => title

theorem runIn_connect {s : Server τ} {values : OrderedMap (String × τ)} {keys : OrderedMap τ}
    (h : s.Holds index values keys) (capacity ttl : Option Int) :
    ∃ t, (connect capacity ttl).runIn s = (.ok (ofLimits capacity ttl), t) ∧
      t.Holds index values keys := by
  obtain ⟨t, hissue, ht⟩ := h.issue .ping
  refine ⟨t, ?_, ht⟩
  simp only [connect, runIn_bind, runIn_guarded, Server.ping, hissue, runIn_pure]

variable [Instant τ]

/-- Does what is asked for; the answer, if it is for a page. -/
def perform (c : SharedCache) (now : τ) : Request → Action (Server τ) (Option (Option String))
  | .put title text => do
    let _ ← c.put title text now
    return none
  | .get title => some <$> get title now
  | .delete title => do
    let _ ← delete title now
    return none

/-- The server after a request at a time. -/
def after (c : SharedCache) (s : Server τ) (step : τ × Request) : Server τ :=
  ((c.perform step.1 step.2).runIn s).2

def afterAll (c : SharedCache) (s : Server τ) (steps : List (τ × Request)) : Server τ :=
  steps.foldl c.after s

/-- What requests for pages are answered, and the faults of requests of any kind. -/
def answers (c : SharedCache) : Server τ → List (τ × Request) → List (Except Fault (Option String))
  | _, [] => []
  | s, step :: steps =>
    (match ((c.perform step.1 step.2).runIn s).1 with
      | .ok none => []
      | .ok (some page) => [.ok page]
      | .error f => [.error f]) ++ answers c (c.after s step) steps

/-- The keys in use once a key was put in and those of expired pages were taken out. -/
def refreshed (keys : OrderedMap τ) (key : String) (now life : τ) : OrderedMap τ :=
  (keys.insert key now).filter fun _ score =>
    !(Ranked.le Instant.zero score && Ranked.le score (Instant.sub now life))

/-- The keys that are driven out for lack of room. -/
def excess (c : SharedCache) (keys : OrderedMap τ) : List String :=
  Server.lowest keys ((keys.size : Nat) - c.capacity)

variable {c : SharedCache} {s : Server τ} {values : OrderedMap (String × τ)}
  {keys : OrderedMap τ} {now life : τ}

theorem runIn_get (h : s.Holds index values keys) (title : String) (now : τ) :
    ∃ t, (get title now).runIn s = (.ok (Server.live? values (key title) now), t) ∧
      t.Holds index values keys := by
  obtain ⟨t, hget, ht⟩ := h.get (key title) now
  exact ⟨t, by rw [get, runIn_guarded, hget], ht⟩

theorem runIn_delete (h : s.Holds index values keys) (title : String) (now : τ) :
    ∃ found t, (delete title now).runIn s = (.ok found, t) ∧
      t.Holds index (values.erase (key title)) (keys.erase (key title)) := by
  obtain ⟨n, t, hzrem, ht⟩ := h.zrem (key title)
  obtain ⟨m, u, hdelete, hu⟩ := ht.delete [key title] now
  refine ⟨decide (0 < m), u, ?_, hu⟩
  simp only [delete, runIn_tryCatch, runIn_bind, hzrem, hdelete, runIn_pure]

theorem runIn_evict (h : s.Holds index values keys) (c : SharedCache) (now : τ) :
    ∃ t, (c.evict now).runIn s = (.ok (), t) ∧
      t.Holds index ((c.excess keys).foldl OrderedMap.erase values)
        ((c.excess keys).foldl OrderedMap.erase keys) := by
  obtain ⟨t, hzcard, ht⟩ := h.zcard
  by_cases hover : 0 < (keys.size : Int) - c.capacity
  · obtain ⟨u, hzpopmin, hu⟩ := ht.zpopmin (keys.size - c.capacity)
    by_cases hnone : c.excess keys = []
    · rw [excess] at hnone ⊢
      rw [hnone] at hzpopmin hu ⊢
      refine ⟨u, ?_, hu⟩
      simp only [evict, runIn_bind, hzcard, if_pos hover, hzpopmin, ne_eq, not_true_eq_false,
        if_false, runIn_pure]
    · obtain ⟨n, v, hdelete, hv⟩ := hu.delete (c.excess keys) now
      refine ⟨v, ?_, hv⟩
      rw [excess] at hdelete hnone
      simp only [evict, runIn_bind, hzcard, if_pos hover, hzpopmin, if_pos hnone, hdelete,
        runIn_pure]
  · have hnone : c.excess keys = [] := by
      rw [excess, Server.lowest, Int.toNat_of_nonpos (by omega), List.take_zero, List.map_nil]
    rw [hnone]
    refine ⟨t, ?_, ht⟩
    simp only [evict, runIn_bind, hzcard, if_neg hover, runIn_pure]

theorem holds_commands (h : s.Holds index values keys)
    (hlife : Instant.seconds? (τ := τ) c.ttl = some life) (key text : String) (now : τ) :
    ∃ t, [.setex key c.ttl text, .zadd index key now,
        .zremrangebyscore index (Instant.sub now life)].foldlM (Server.apply now) s = .ok t ∧
      t.Holds index (values.insert key (text, Instant.add now life))
        (refreshed keys key now life) := by
  obtain ⟨s₁, hsetex, h₁⟩ := h.apply_setex hlife key text now
  obtain ⟨s₂, hzadd, h₂⟩ := h₁.apply_zadd key now now
  obtain ⟨t, hexpire, ht⟩ := h₂.apply_zremrangebyscore (Instant.sub now life) now
  refine ⟨t, ?_, ht⟩
  simp only [List.foldlM_cons, List.foldlM_nil, bind, Except.bind, hsetex, hzadd, hexpire]
  rfl

/-- A page that is put in is there, and its key with it, unless they are driven out at once. -/
theorem runIn_put (h : s.Holds index values keys)
    (hlife : Instant.seconds? (τ := τ) c.ttl = some life) (title text : String) (now : τ) :
    let kept := refreshed keys (key title) now life
    ∃ t, (c.put title text now).runIn s = (.ok true, t) ∧
      t.Holds index
        ((c.excess kept).foldl OrderedMap.erase
          (values.insert (key title) (text, Instant.add now life)))
        ((c.excess kept).foldl OrderedMap.erase kept) := by
  intro kept
  obtain ⟨s₁, hsetex, h₁⟩ := h.issue (.setex (key title) c.ttl text)
  obtain ⟨s₂, hzadd, h₂⟩ := h₁.issue (.zadd index (key title) now)
  obtain ⟨s₃, hexpire, h₃⟩ := h₂.issue (.zremrangebyscore index (Instant.sub now life))
  obtain ⟨s₄, hexecute, h₄⟩ :=
    h₃.execute fun t ht => holds_commands (c := c) ht hlife (key title) text now
  obtain ⟨t, hevict, ht⟩ := runIn_evict h₄ c now
  refine ⟨t, ?_, ht⟩
  simp only [put, runIn_bind, runIn_guarded, store, hsetex, hzadd, hlife, hexpire, hexecute, hevict,
    runIn_pure]

end WikiGateway.SharedCache
