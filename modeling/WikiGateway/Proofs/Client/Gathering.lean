import WikiGateway.Proofs.Client.Answers

/-!
Lists gathered from one answer after the other. A step goes on from an answer as that one says; as a
script ends, and what comes after it fails, so does the gathering.
-/
namespace WikiGateway.Client

open WikiGateway.Action Attempt

variable {c : Client} {params : Parameters} {limit : Option Nat} {P : List Json → Prop}
  {find : Json → Except Fault (List Json)} {Hits : Json → List Json → Prop}
  {continuation : List (String × Json)} {gathered hits : List Json} {script : List Exchange}
  {data : Json} {w : Wire} {fuel : Nat}

/-- The next exchange of a script tells some data. -/
def TellsNext (c : Client) (params : Parameters) (script : List Exchange) (data : Json) : Prop :=
  c.Sends params (script.headD Wire.silence) ∧ Tells (script.headD Wire.silence) data

/-- The next exchange of a script fails as a source of content fails. -/
def FailsNext (c : Client) (params : Parameters) (script : List Exchange) : Prop :=
  c.Sends params (script.headD Wire.silence) ∧ Fails (script.headD Wire.silence)

/-- Along a script, hits are gathered that `P` holds of, unless an exchange fails before. Each
request has the call's own parameters, and over them those that the answer before it said. -/
inductive Gathers (c : Client) (params : Parameters) (Hits : Json → List Json → Prop)
    (limit : Option Nat) (P : List Json → Prop) :
    List (String × Json) → List Json → List Exchange → Prop
  | fails {continuation : List (String × Json)} {gathered : List Json} {script : List Exchange} :
      c.FailsNext (params.overlay continuation) script →
      Gathers c params Hits limit P continuation gathered script
  | enough {continuation : List (String × Json)} {gathered hits : List Json}
      {script : List Exchange} {data : Json} :
      c.TellsNext (params.overlay continuation) script data → Hits data hits →
      isEnough limit (gathered ++ hits) = true →
      P ((gathered ++ hits).take (limit.getD (gathered ++ hits).length)) →
      Gathers c params Hits limit P continuation gathered script
  | complete {continuation : List (String × Json)} {gathered hits : List Json}
      {script : List Exchange} {data : Json} :
      c.TellsNext (params.overlay continuation) script data → Hits data hits →
      isEnough limit (gathered ++ hits) = false → data.member? "continue" = none →
      P (gathered ++ hits) → Gathers c params Hits limit P continuation gathered script
  | continued {continuation next : List (String × Json)} {gathered hits : List Json}
      {script : List Exchange} {data : Json} :
      c.TellsNext (params.overlay continuation) script data → Hits data hits →
      isEnough limit (gathered ++ hits) = false → data.member? "continue" = some (.obj next) →
      Gathers c params Hits limit P next (gathered ++ hits) script.tail →
      Gathers c params Hits limit P continuation gathered script

/-- Nothing is gathered from an answer that holds no object. -/
theorem Gathers.isObject {status : Int} {body : List UInt8} (hHits : ∀ {data hits}, Hits data hits →
    IsObject data) (h : Gathers c params Hits limit P continuation gathered
      (.answer status body :: script)) (hstatus : status < 400) (hholds : Holds body data) :
    IsObject data := by
  cases h with
  | fails hfails => exact hfails.2.isObject hstatus hholds
  | enough htells hhits =>
    obtain rfl := hholds.unique htells.2.holds
    exact hHits hhits
  | complete htells hhits =>
    obtain rfl := hholds.unique htells.2.holds
    exact hHits hhits
  | continued htells hhits =>
    obtain rfl := hholds.unique htells.2.holds
    exact hHits hhits

/-- What a gathering does with the data of an answer. -/
def goOn (c : Client) (params : Parameters) (find : Json → Except Fault (List Json))
    (limit : Option Nat) (fuel : Nat) (gathered : List Json) (data : Json) :
    Action Wire (List Json) := do
  let gathered := gathered ++ (← find data)
  if isEnough limit gathered then return gathered.take (limit.getD gathered.length)
  match data.member? "continue" with
  | none => return gathered
  | some (.obj next) => gather c params find limit fuel next gathered
  | some _ => throw .wrongShape

theorem gather_succ :
    gather c params find limit (fuel + 1) continuation gathered =
      c.request (params.overlay continuation) >>= goOn c params find limit fuel gathered := rfl

theorem goOn_of_enough (hfind : find data = .ok hits) (h : isEnough limit (gathered ++ hits) = true)
    (w : Wire) :
    (goOn c params find limit fuel gathered data).runIn w =
      (.ok ((gathered ++ hits).take (limit.getD (gathered ++ hits).length)), w) := by
  rw [goOn, runIn_bind, runIn_lift, hfind]
  simp only [h, if_true]
  rfl

theorem goOn_of_complete (hfind : find data = .ok hits)
    (h : isEnough limit (gathered ++ hits) = false) (hlast : data.member? "continue" = none)
    (w : Wire) :
    (goOn c params find limit fuel gathered data).runIn w = (.ok (gathered ++ hits), w) := by
  rw [goOn, runIn_bind, runIn_lift, hfind]
  simp only [h, hlast]
  rfl

theorem goOn_of_continued {next : List (String × Json)} (hfind : find data = .ok hits)
    (h : isEnough limit (gathered ++ hits) = false)
    (hnext : data.member? "continue" = some (.obj next)) (w : Wire) :
    (goOn c params find limit fuel gathered data).runIn w =
      (gather c params find limit fuel next (gathered ++ hits)).runIn w := by
  rw [goOn, runIn_bind, runIn_lift, hfind]
  simp only [h, hnext]
  rfl

/-- After the script nothing is told. -/
theorem not_tells_silence : ¬ Tells Wire.silence data := by
  rintro ⟨hstatus, -⟩
  exact absurd hstatus (by decide)

/-- An answer with data is one of the script. -/
theorem TellsNext.length_tail_lt (h : c.TellsNext params script data) :
    script.tail.length < script.length := by
  cases script with
  | nil => exact absurd h.2 not_tells_silence
  | cons e script => exact Nat.lt_succ_self _

theorem keepsTo_gather_of_goOn (htells : c.TellsNext (params.overlay continuation) w.script data)
    (h : KeepsTo P ((goOn c params find limit fuel gathered data).runIn
      (afterRequest w (params.overlay continuation))).1) :
    KeepsTo P ((gather c params find limit (fuel + 1) continuation gathered).runIn w).1 := by
  rw [gather_succ, keepsTo_request]
  exact ⟨htells.1, .inr ⟨data, htells.2, h⟩⟩

/-- What keeps to `P` from the data of an answer on. -/
theorem gathers_of_goOn (hfind : ∀ {data hits}, find data = .ok hits ↔ Hits data hits)
    (hastray : ∀ data, Astray (find data))
    (htells : c.TellsNext (params.overlay continuation) script data)
    (hrest : ∀ {next gathered}, KeepsTo P
      ((gather c params find limit fuel next gathered).runIn w).1 →
      Gathers c params Hits limit P next gathered script.tail)
    (h : KeepsTo P ((goOn c params find limit fuel gathered data).runIn w).1) :
    Gathers c params Hits limit P continuation gathered script := by
  cases hhits : find data with
  | error f =>
    rw [goOn, runIn_bind, runIn_lift, hhits] at h
    exact absurd h (Strays.not_keepsTo ⟨f, rfl, hastray data f hhits⟩)
  | ok hits =>
    have hfound : Hits data hits := hfind.mp hhits
    cases henough : isEnough limit (gathered ++ hits) with
    | true =>
      rw [goOn_of_enough hhits henough] at h
      rcases h with ⟨a, ha, hP⟩ | ⟨f, hf, -⟩
      · cases ha
        exact .enough htells hfound henough hP
      · cases hf
    | false =>
      cases hnext : data.member? "continue" with
      | none =>
        rw [goOn_of_complete hhits henough hnext] at h
        rcases h with ⟨a, ha, hP⟩ | ⟨f, hf, -⟩
        · cases ha
          exact .complete htells hfound henough hnext hP
        · cases hf
      | some next =>
        cases next with
        | obj next =>
          rw [goOn_of_continued hhits henough hnext] at h
          exact .continued htells hfound henough hnext (hrest h)
        | _ =>
          rw [goOn, runIn_bind, runIn_lift, hhits] at h
          simp only [henough, hnext] at h
          exact absurd h (Strays.not_keepsTo ⟨.wrongShape, rfl, rfl⟩)

theorem gathers_of_keepsTo_gather (hfind : ∀ {data hits}, find data = .ok hits ↔ Hits data hits)
    (hastray : ∀ data, Astray (find data)) (hfuel : w.script.length < fuel)
    (h : KeepsTo P ((gather c params find limit fuel continuation gathered).runIn w).1) :
    Gathers c params Hits limit P continuation gathered w.script := by
  induction fuel generalizing w continuation gathered with
  | zero => exact absurd hfuel (Nat.not_lt_zero _)
  | succ fuel ih =>
    rw [gather_succ, keepsTo_request] at h
    obtain ⟨hsends, hfails | ⟨data, htells, hrest⟩⟩ := h
    · exact .fails ⟨hsends, hfails⟩
    · have htellsNext : c.TellsNext (params.overlay continuation) w.script data :=
        ⟨hsends, htells⟩
      have hshorter : w.script.tail.length < fuel :=
        Nat.lt_of_lt_of_le htellsNext.length_tail_lt (Nat.le_of_lt_succ hfuel)
      exact gathers_of_goOn hfind hastray htellsNext (fun h => ih hshorter h) hrest

theorem keepsTo_gather_of_gathers (hfind : ∀ {data hits}, find data = .ok hits ↔ Hits data hits)
    (hfuel : w.script.length < fuel)
    (h : Gathers c params Hits limit P continuation gathered w.script) :
    KeepsTo P ((gather c params find limit fuel continuation gathered).runIn w).1 := by
  generalize hscript : w.script = script at h
  induction h generalizing w fuel with
  | fails hfails =>
    subst hscript
    obtain ⟨fuel, rfl⟩ := Nat.exists_eq_add_one_of_ne_zero (Nat.ne_zero_of_lt hfuel)
    rw [gather_succ, keepsTo_request]
    exact ⟨hfails.1, .inl hfails.2⟩
  | enough htells hhits henough hP =>
    subst hscript
    obtain ⟨fuel, rfl⟩ := Nat.exists_eq_add_one_of_ne_zero (Nat.ne_zero_of_lt hfuel)
    apply keepsTo_gather_of_goOn htells
    rw [goOn_of_enough (hfind.mpr hhits) henough]
    exact .inl ⟨_, rfl, hP⟩
  | complete htells hhits henough hlast hP =>
    subst hscript
    obtain ⟨fuel, rfl⟩ := Nat.exists_eq_add_one_of_ne_zero (Nat.ne_zero_of_lt hfuel)
    apply keepsTo_gather_of_goOn htells
    rw [goOn_of_complete (hfind.mpr hhits) henough hlast]
    exact .inl ⟨_, rfl, hP⟩
  | continued htells hhits henough hnext _ ih =>
    subst hscript
    obtain ⟨fuel, rfl⟩ := Nat.exists_eq_add_one_of_ne_zero (Nat.ne_zero_of_lt hfuel)
    apply keepsTo_gather_of_goOn htells
    rw [goOn_of_continued (hfind.mpr hhits) henough hnext]
    refine ih ?_ rfl
    exact Nat.lt_of_lt_of_le htells.length_tail_lt (Nat.le_of_lt_succ hfuel)

/-- With steps enough for its script, a gathering keeps to `P` exactly if such hits are gathered
along the script. -/
theorem keepsTo_gather_iff (hfind : ∀ {data hits}, find data = .ok hits ↔ Hits data hits)
    (hastray : ∀ data, Astray (find data)) (hfuel : w.script.length < fuel) :
    KeepsTo P ((gather c params find limit fuel continuation gathered).runIn w).1 ↔
      Gathers c params Hits limit P continuation gathered w.script :=
  ⟨gathers_of_keepsTo_gather hfind hastray hfuel, keepsTo_gather_of_gathers hfind hfuel⟩

end WikiGateway.Client
