import WikiGateway.Proofs.Cache.Mirror

/-! What a shared cache leaves behind on a server that may refuse any command: whatever has not
expired is in the index, unless the server refused to delete it. -/
namespace WikiGateway

open WikiGateway.Action

/-- The keys that a command deletes. -/
def Command.deleted {τ : Type} : Command τ → List String
  | delete keys => keys
  | _ => []

namespace Server

variable {τ : Type} {P : Server τ → Prop}

/-- The keys that the server refused to delete. -/
def undeleted (s : Server τ) : List String :=
  s.log.toList.zipIdx.flatMap fun (command, n) =>
    if s.refuses n command.name then command.deleted else []

/-- The server after it noted a command. -/
def noting (s : Server τ) (command : Command τ) : Server τ :=
  { s with log := s.log.push command }

theorem undeleted_noting (s : Server τ) (command : Command τ) :
    (s.noting command).undeleted = s.undeleted ++
      if s.refuses s.log.size command.name then command.deleted else [] := by
  rw [undeleted, undeleted, noting, Array.toList_push, List.zipIdx_append, List.flatMap_append]
  simp

theorem undeleted_subset_noting (s : Server τ) (command : Command τ) :
    s.undeleted ⊆ (s.noting command).undeleted := by
  rw [undeleted_noting]
  exact List.subset_append_left _ _

theorem leads_issue {command : Command τ} {Q R : Server τ → Prop}
    (hdone : ∀ s, P s → Q (s.noting command))
    (hrefused : ∀ s, P s → s.refuses s.log.size command.name = true → R (s.noting command)) :
    Leads P (issue command) (fun _ => Q) R := by
  intro s hs
  cases hrefuses : s.refuses s.log.size command.name with
  | true => simpa [issue, runIn_bind, hrefuses, noting] using hrefused s hs hrefuses
  | false => simpa [issue, runIn_bind, hrefuses, noting] using hdone s hs

/-- So many members are taken out as there are, and as were asked for. -/
theorem size_foldl_erase_lowest [Instant τ] (ms : OrderedMap τ) (count : Int) :
    ((lowest ms count).foldl OrderedMap.erase ms).size = ms.size - count.toNat := by
  have hperm := List.mergeSort_perm ms.entries scoredBefore
  have hnodup : ((ms.entries.mergeSort scoredBefore).map Prod.fst).Nodup :=
    (hperm.map Prod.fst).nodup_iff.mpr ms.nodup
  have hrest := filter_not_mem_take hnodup count.toNat
  calc ((lowest ms count).foldl OrderedMap.erase ms).size
      = (ms.entries.filter fun e => e.1 ∉ lowest ms count).length := by
        rw [OrderedMap.size, OrderedMap.entries_foldl_erase]
    _ = ((ms.entries.mergeSort scoredBefore).filter fun e =>
          e.1 ∉ lowest ms count).length := (hperm.filter _).length_eq.symm
    _ = ms.size - count.toNat := by
        rw [lowest, hrest, List.length_drop, hperm.length_eq, OrderedMap.size]

end Server

namespace SharedCache

variable {τ : Type}

section Listed

variable [Field τ] [LinearOrder τ] {life now : τ} {left ks : List String}
  {values : OrderedMap (String × τ)} {keys : OrderedMap τ}

/-- Each value that has not expired by `now` and is not left to itself is in the index, with the
time when it was put in. -/
def Listed (life now : τ) (left : List String) (values : OrderedMap (String × τ))
    (keys : OrderedMap τ) : Prop :=
  ∀ k text expiry, values.find? k = some (text, expiry) → now < expiry → k ∉ left →
    ∃ time, keys.find? k = some time ∧ expiry ≤ time + life

theorem listed_empty (life now : τ) (left : List String) : Listed life now left .empty keys := by
  intro k text expiry hk
  cases hk

theorem Listed.mono (h : Listed life now left values keys) {left' : List String}
    (hsub : left ⊆ left') : Listed life now left' values keys := by
  intro k text expiry hk hlive hleft
  exact h k text expiry hk hlive fun hmem => hleft (hsub hmem)

theorem Listed.mem_keys (h : Listed life now left values keys) {k : String}
    (hk : k ∈ liveKeys values now) : k ∈ keys.keys ∨ k ∈ left := by
  obtain ⟨e, he, rfl⟩ := List.mem_map.mp hk
  obtain ⟨he, hlive⟩ := List.mem_filter.mp he
  by_cases hleft : e.1 ∈ left
  · exact Or.inr hleft
  · obtain ⟨time, htime, -⟩ :=
      h _ _ _ (OrderedMap.find?_eq_some_iff.mpr he) (of_decide_eq_true hlive) hleft
    exact Or.inl (OrderedMap.mem_keys_iff.mpr ⟨time, htime⟩)

/-- Keys taken out of the index are left to themselves. -/
theorem Listed.unlist (h : Listed life now left values keys) (ks : List String) :
    Listed life now (ks ++ left) values (ks.foldl OrderedMap.erase keys) := by
  intro k text expiry hk hlive hleft
  obtain ⟨hks, hleft⟩ := not_or.mp (mt List.mem_append.mpr hleft)
  rw [OrderedMap.find?_foldl_erase, if_neg hks]
  exact h k text expiry hk hlive hleft

theorem Listed.delete (h : Listed life now (ks ++ left) values keys) :
    Listed life now left (ks.foldl OrderedMap.erase values) keys := by
  intro k text expiry hk hlive hleft
  rw [OrderedMap.find?_foldl_erase] at hk
  by_cases hks : k ∈ ks
  · simp [hks] at hk
  · rw [if_neg hks] at hk
    refine h k text expiry hk hlive fun hmem => ?_
    exact (List.mem_append.mp hmem).elim hks hleft

/-- What holds of a server at all times: `pending` is to be deleted next. -/
def Sound (life now : τ) (pending : List String) (s : Server τ) : Prop :=
  Listed life now (pending ++ s.undeleted) s.values (s.members index)

variable {pending : List String} {s : Server τ} {H : OrderedMap τ → Prop}

theorem Sound.noting (h : Sound life now pending s) (command : Command τ) :
    Sound life now pending (s.noting command) :=
  Listed.mono h (List.append_subset.mpr ⟨List.subset_append_left _ _,
    List.subset_append_of_subset_right _ (s.undeleted_subset_noting command)⟩)

theorem leads_issue (command : Command τ) :
    Leads (Sound life now []) (Server.issue command) (fun _ => Sound life now [])
      (Sound life now []) :=
  Server.leads_issue (fun _ hs => hs.noting command) fun _ hs _ => hs.noting command

theorem leads_zcard :
    Leads (Sound life now []) (Server.zcard index)
      (fun n s => Sound life now [] s ∧ (s.members index).size = n) (Sound life now []) := by
  refine (leads_issue _).bind fun _ s hs => ?_
  exact ⟨hs, rfl⟩

theorem leads_zrem (key : String) :
    Leads (Sound life now []) (Server.zrem index key) (fun _ => Sound life now [key])
      (Sound life now []) := by
  refine (leads_issue _).bind fun _ s hs => ?_
  have hunlist := Listed.unlist hs [key]
  simp only [runIn_bind, runIn_getThe, runIn_set, runIn_pure, Sound, Server.members_insert]
  exact hunlist

theorem sound_connect {capacity ttl : Option Int} {refuses : Nat → String → Bool} {c : SharedCache}
    (h : (connect capacity ttl).runIn (Server.empty refuses) = (.ok c, s)) (life now : τ) :
    c = ofLimits capacity ttl ∧ Sound life now [] s := by
  have hping : Keeps (Sound life now []) (guarded (τ := τ) id Server.ping) :=
    ((leads_issue .ping).keeps fun _ _ hs => hs).tryCatch fun _ => keeps_throw _
  have hsound := hping (Server.empty refuses) (listed_empty life now _)
  rw [connect, runIn_bind] at h
  rcases hrun : (guarded id Server.ping).runIn (Server.empty refuses : Server τ) with ⟨f | _, t⟩
  · rw [hrun] at h
    cases h
  · rw [hrun] at h hsound
    cases h
    exact ⟨rfl, hsound⟩

variable [FloorSemiring τ]

theorem leads_zpopmin (n : Nat) (count : Int) :
    Leads (fun s => Sound life now [] s ∧ (s.members index).size = n) (Server.zpopmin index count)
      (fun ks s => Sound life now ks s ∧ (s.members index).size = n - count.toNat)
      (Sound life now []) := by
  have hissue : Leads (fun s => Sound life now [] s ∧ (s.members index).size = n)
      (Server.issue (.zpopmin index count))
      (fun _ s => Sound life now [] s ∧ (s.members index).size = n) (Sound life now []) :=
    Server.leads_issue (fun _ hs => ⟨hs.1.noting _, hs.2⟩) fun _ hs _ => hs.1.noting _
  refine hissue.bind fun _ s hs => ?_
  obtain ⟨hs, rfl⟩ := hs
  have hunlist := Listed.unlist hs (Server.lowest (s.members index) count)
  have hsize := Server.size_foldl_erase_lowest (s.members index) count
  simp only [runIn_bind, runIn_getThe, runIn_set, runIn_pure, Sound, Server.members_insert]
  exact ⟨hunlist, hsize⟩

/-- Keys that the server refuses to delete are left to themselves. -/
theorem leads_delete (ks : List String) (time : τ) :
    Leads (fun s => Sound life now ks s ∧ H (s.members index)) (Server.delete ks time)
      (fun _ s => Sound life now [] s ∧ H (s.members index)) (Sound life now []) := by
  have hissue : Leads (fun s => Sound life now ks s ∧ H (s.members index))
      (Server.issue (.delete ks)) (fun _ s => Sound life now ks s ∧ H (s.members index))
      (Sound life now []) := by
    refine Server.leads_issue (fun _ hs => ⟨hs.1.noting _, hs.2⟩) fun s hs hrefused => ?_
    refine Listed.mono hs.1 fun k hk => ?_
    rw [Server.undeleted_noting, if_pos hrefused]
    simpa [Command.deleted, or_comm] using hk
  refine hissue.bind fun _ s hs => ?_
  have hdelete := Listed.delete hs.1
  simp only [runIn_bind, runIn_getThe, runIn_set, runIn_pure, Sound]
  rw [Server.fst_foldl_erase (fun _ _ => rfl)]
  exact ⟨hdelete, hs.2⟩

theorem leads_evict {c : SharedCache} (hcapacity : 0 ≤ c.capacity) (time : τ) :
    Leads (Sound life now []) (c.evict time)
      (fun _ s => Sound life now [] s ∧ (s.members index).size ≤ c.capacity.toNat)
      (Sound life now []) := by
  refine leads_zcard.bind fun n => ?_
  dsimp only
  split
  · refine (leads_zpopmin n _).bind fun ks => ?_
    split
    · refine (leads_delete (H := fun ms => ms.size = n - (n - c.capacity).toNat) ks time).bind ?_
      exact fun _ => leads_pure fun s hs => ⟨hs.1, by omega⟩
    · rename_i hnone
      obtain rfl := not_not.mp hnone
      exact leads_pure fun s hs => ⟨hs.1, by omega⟩
  · exact leads_pure fun s hs => ⟨hs.1, by omega⟩

theorem keeps_get (title : String) (time : τ) : Keeps (Sound life now []) (get title time) := by
  refine Keeps.tryCatch ?_ fun _ => keeps_throw _
  refine ((leads_issue _).keeps fun _ _ hs => hs).bind fun _ => ?_
  exact keeps_getThe.bind fun _ => keeps_pure _

theorem keeps_delete (title : String) (time : τ) :
    Keeps (Sound life now []) (delete title time) := by
  have hact : Leads (Sound life now [])
      (do
        let _ ← Server.zrem index (key title)
        return decide (0 < (← Server.delete [key title] time)))
      (fun _ => Sound life now []) (Sound life now []) := by
    refine (leads_zrem (key title)).bind fun _ s hs => ?_
    refine (leads_delete (H := fun _ => True) [key title] time).bind ?_ s ⟨hs, trivial⟩
    exact fun _ => leads_pure fun _ ht => ht.1
  exact (hact.tryCatch fun _ => leads_pure fun _ hs => hs).keeps fun _ _ hs => hs

variable [IsStrictOrderedRing τ]

/-- A page that is put in is in the index, and no page is taken out of it that has not expired. -/
theorem Listed.put (h : Listed life now left values keys) {time : τ} (hpast : time ≤ now)
    (key text : String) :
    Listed life now left (values.insert key (text, Instant.add time life))
      (refreshed keys key time life) := by
  have hkept {k : String} {score : τ} (hfound : (keys.insert key time).find? k = some score)
      (hlater : now < score + life) : (refreshed keys key time life).find? k = some score := by
    have hmem := OrderedMap.find?_eq_some_iff.mp hfound
    refine OrderedMap.find?_eq_some_iff.mpr (List.mem_filter.mpr ⟨hmem, ?_⟩)
    have hscore : time - life < score := sub_lt_iff_lt_add.mpr (hpast.trans_lt hlater)
    simp [hscore.not_ge]
  intro k text' expiry hk hlive hleft
  rw [OrderedMap.find?_insert] at hk
  by_cases hkey : k = key
  · subst hkey
    simp only [if_true, Option.some.injEq, Prod.mk.injEq] at hk
    obtain ⟨-, rfl⟩ := hk
    refine ⟨time, hkept ?_ hlive, le_rfl⟩
    simp [OrderedMap.find?_insert]
  · rw [if_neg hkey] at hk
    obtain ⟨score, hscore, hexpiry⟩ := h k text' expiry hk hlive hleft
    refine ⟨score, hkept ?_ (hlive.trans_le hexpiry), hexpiry⟩
    rw [OrderedMap.find?_insert, if_neg hkey, hscore]

/-- Commands that act together put the page and its key in. -/
theorem leads_execute {c : SharedCache} {time : τ} (hpast : time ≤ now) (key text : String) :
    Leads (Sound (c.ttl : τ) now [])
      (Server.execute [.setex key c.ttl text, .zadd index key time,
        .zremrangebyscore index (Instant.sub time (c.ttl : τ))] time)
      (fun _ => Sound (c.ttl : τ) now []) (Sound (c.ttl : τ) now []) := by
  refine (leads_issue _).bind fun _ s hs => ?_
  have happlied : ∃ t, [.setex key c.ttl text, .zadd index key time,
      .zremrangebyscore index (Instant.sub time (c.ttl : τ))].foldlM (Server.apply time) s = .ok t ∧
      t.values = s.values.insert key (text, Instant.add time (c.ttl : τ)) ∧
      t.members index = refreshed (s.members index) key time c.ttl ∧
      t.undeleted = s.undeleted := by
    refine ⟨_, rfl, rfl, ?_, rfl⟩
    rw [Server.members_insert, Server.members_insert]
    rfl
  obtain ⟨t, hrun, hvalues, hmembers, hundeleted⟩ := happlied
  rw [Server.runIn_applyAll hrun]
  change Listed _ _ _ _ _
  rw [hvalues, hmembers, hundeleted]
  exact Listed.put hs hpast key text

theorem leads_store {c : SharedCache} (hcapacity : 0 ≤ c.capacity) {time : τ} (hpast : time ≤ now)
    (title text : String) :
    Leads (Sound (c.ttl : τ) now []) (c.store title text time)
      (fun _ s => Sound (c.ttl : τ) now [] s ∧ (s.members index).size ≤ c.capacity.toNat)
      (Sound (c.ttl : τ) now []) := by
  refine (leads_issue _).bind fun _ => (leads_issue _).bind fun _ => ?_
  refine (leads_issue _).bind fun _ => ?_
  exact (leads_execute hpast _ _).bind fun _ => leads_evict hcapacity time

theorem leads_put {c : SharedCache} (hcapacity : 0 ≤ c.capacity) {time : τ} (hpast : time ≤ now)
    (title text : String) :
    Leads (Sound (c.ttl : τ) now []) (c.put title text time)
      (fun _ s => Sound (c.ttl : τ) now [] s ∧ (s.members index).size ≤ c.capacity.toNat)
      (Sound (c.ttl : τ) now []) := by
  refine Leads.bind ?_ fun _ => leads_pure fun _ hs => hs
  exact (leads_store hcapacity hpast title text).tryCatch fun _ => leads_throw fun _ hs => hs

/-- No request makes a server unsound, whatever the server refuses. -/
theorem keeps_perform {c : SharedCache} (hcapacity : 0 ≤ c.capacity) {time : τ} {request : Request}
    (hpast : ∀ title text, request = .put title text → time ≤ now) :
    Keeps (Sound (c.ttl : τ) now []) (c.perform time request) := by
  cases request with
  | put title text =>
    have hput := leads_put hcapacity (hpast title text rfl) title text
    exact (hput.keeps fun _ _ hs => hs.1).bind fun _ => keeps_pure _
  | get title => exact (keeps_get title time).map _
  | delete title => exact (keeps_delete title time).bind fun _ => keeps_pure _

theorem keeps_afterAll {c : SharedCache} (hcapacity : 0 ≤ c.capacity)
    {steps : List (τ × Request)}
    (hpast : ∀ time title text, (time, .put title text) ∈ steps → time ≤ now)
    (hs : Sound (c.ttl : τ) now [] s) : Sound (c.ttl : τ) now [] (c.afterAll s steps) := by
  induction steps generalizing s with
  | nil => exact hs
  | cons step steps ih =>
    obtain ⟨time, request⟩ := step
    have hstep : Keeps (Sound (c.ttl : τ) now []) (c.perform time request) := by
      refine keeps_perform hcapacity fun title text heq => ?_
      exact hpast time title text (heq ▸ List.mem_cons_self)
    refine ih (fun time title text hmem => ?_) (hstep s hs)
    exact hpast time title text (List.mem_cons_of_mem _ hmem)

/-- Whatever commands the server refuses, after every request the pages that have not expired are in
the index, except for those that it refused to delete; and after every page that is put in there are
no more of them than there is room for. -/
theorem put_fits {capacity : Nat} (hcapacity : 0 < capacity) {ttl : Option Int}
    {refuses : Nat → String → Bool} {c : SharedCache}
    (hconnect : (connect (some (capacity : Int)) ttl).runIn (Server.empty refuses) = (.ok c, s))
    {steps : List (τ × Request)}
    (hpast : ∀ time title text, (time, .put title text) ∈ steps → time ≤ now) :
    let t := c.afterAll s steps
    (∀ k ∈ liveKeys t.values now, k ∈ (t.members index).keys ∨ k ∈ t.undeleted) ∧
    ∀ title text u, (c.put title text now).runIn t = (.ok true, u) →
      (∀ k ∈ liveKeys u.values now, k ∈ (u.members index).keys ∨ k ∈ u.undeleted) ∧
      ((liveKeys u.values now).filter (· ∉ u.undeleted)).length ≤ capacity := by
  obtain ⟨rfl, hsound⟩ := sound_connect hconnect (c.ttl : τ) now
  have hroom : (ofLimits (some (capacity : Int)) ttl).capacity = capacity := by
    simp [ofLimits, Cache.orUsual, hcapacity.ne']
  have hnatural : 0 ≤ (ofLimits (some (capacity : Int)) ttl).capacity := by omega
  have hall := keeps_afterAll hnatural hpast hsound
  intro t
  refine ⟨fun k hk => Listed.mem_keys hall hk, fun title text u hput => ?_⟩
  have hafter := leads_put hnatural le_rfl title text t hall
  rw [hput] at hafter
  obtain ⟨hu, hsize⟩ := hafter
  have hlisted : ∀ k ∈ liveKeys u.values now, k ∈ (u.members index).keys ∨ k ∈ u.undeleted :=
    fun k hk => Listed.mem_keys hu hk
  refine ⟨hlisted, ?_⟩
  have hnodup : ((liveKeys u.values now).filter (· ∉ u.undeleted)).Nodup :=
    ((List.filter_sublist.map Prod.fst).nodup u.values.nodup).filter _
  have hsub : (liveKeys u.values now).filter (· ∉ u.undeleted) ⊆ (u.members index).keys := by
    intro k hk
    obtain ⟨hk, hdeleted⟩ := List.mem_filter.mp hk
    exact (hlisted k hk).resolve_right (of_decide_eq_true hdeleted)
  calc ((liveKeys u.values now).filter (· ∉ u.undeleted)).length
      ≤ (u.members index).keys.length := (List.subperm_of_subset hnodup hsub).length_le
    _ = (u.members index).size := by rw [OrderedMap.keys, List.length_map, OrderedMap.size]
    _ ≤ capacity := by omega

end Listed

/-- A server that refuses the eighth command, once a cache has come to it. -/
def stubborn : Server ℚ := ⟨.empty, .empty, #[.ping], fun n _ => n = 7⟩

/-- A page is put in and taken out again. -/
def takenOut : List (ℚ × Request) := [(1, .put "A" "a"), (2, .delete "A")]

theorem connect_stubborn :
    (connect (some (1 : Nat)) (some 10)).runIn (Server.empty fun n _ => n = 7) =
      (.ok ⟨1, 10⟩, stubborn) := rfl

/-- The eighth command was to delete page "A". -/
theorem exists_put_takenOut :
    ∃ u, (put ⟨1, 10⟩ "B" "b" 3).runIn (afterAll ⟨1, 10⟩ stubborn takenOut) = (.ok true, u) ∧
      u.undeleted = [key "A"] ∧ liveKeys u.values 3 = [key "A", key "B"] ∧
      (u.members index).keys = [key "B"] := by
  let run := (put ⟨1, 10⟩ "B" "b" 3).runIn (afterAll ⟨1, 10⟩ stubborn takenOut)
  have hput : run.1.toOption = some true := by decide +kernel
  refine ⟨run.2, ?_, by decide +kernel, by decide +kernel, by decide +kernel⟩
  change run = _
  rcases run with ⟨f | answer, u⟩
  · cases hput
  · obtain rfl : answer = true := Option.some.inj hput
    rfl

theorem put_fits_takenOut :
    0 < 1 ∧ (connect (some (1 : Nat)) (some 10)).runIn (Server.empty fun n _ => n = 7) =
      (.ok ⟨1, 10⟩, stubborn) ∧
    (∀ time title text, (time, .put title text) ∈ takenOut → time ≤ 3) ∧
    ∃ u, (put ⟨1, 10⟩ "B" "b" 3).runIn (afterAll ⟨1, 10⟩ stubborn takenOut) = (.ok true, u) ∧
      u.undeleted = [key "A"] ∧
      ((liveKeys u.values 3).filter (· ∉ u.undeleted)).length ≤ 1 := by
  have hpast : ∀ time title text, (time, .put title text) ∈ takenOut → time ≤ 3 := by
    intro time title text hmem
    simp only [takenOut, List.mem_cons, Prod.mk.injEq, reduceCtorEq, and_false, or_false,
      List.not_mem_nil] at hmem
    rw [hmem.1]
    norm_num
  obtain ⟨u, hput, hdeleted, -⟩ := exists_put_takenOut
  have hfits := (put_fits (by decide) connect_stubborn hpast).2 "B" "b" u hput
  exact ⟨by decide, connect_stubborn, hpast, u, hput, hdeleted, hfits.2⟩

/-- A page that the server refused to delete is no longer counted. There is room for one page, and
the server holds two, of which the index knows one. -/
theorem liveKeys_takenOut :
    (connect (some (1 : Nat)) (some 10)).runIn (Server.empty fun n _ => n = 7) =
      (.ok ⟨1, 10⟩, stubborn) ∧
    ∃ u, (put ⟨1, 10⟩ "B" "b" 3).runIn (afterAll ⟨1, 10⟩ stubborn takenOut) = (.ok true, u) ∧
      1 < (liveKeys u.values 3).length ∧ ∃ k ∈ liveKeys u.values 3, k ∉ (u.members index).keys := by
  obtain ⟨u, hput, -, hlive, hkeys⟩ := exists_put_takenOut
  refine ⟨connect_stubborn, u, hput, by simp [hlive], key "A", by simp [hlive], ?_⟩
  rw [hkeys, List.mem_singleton]
  decide +kernel

end SharedCache

end WikiGateway
