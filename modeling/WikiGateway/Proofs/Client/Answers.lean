import WikiGateway.Proofs.Action
import WikiGateway.Proofs.Client.Shapes

/-!
What comes of one request. An exchange fails as a source of content fails, or it tells some data, or
it does neither: then the request is stopped by a fault of another kind.
-/
namespace WikiGateway.Client

open WikiGateway.Action Attempt

variable {c : Client} {params : Parameters} {e : Exchange} {data data' : Json} {body : List UInt8}
  {w : Wire} {f : Fault}

/-- A body holds a value of JSON. -/
def Holds (body : List UInt8) (data : Json) : Prop :=
  ∃ text, Encoding.decode? body = some text ∧ Json.read text = .ok data

/-- A body holds no value of JSON. One that is nested too deeply to be read is none of these. -/
def HoldsNone (body : List UInt8) : Prop :=
  ∀ text, Encoding.decode? body = some text → ∃ e, Json.read text = .error e ∧ e ≠ .tooDeep

/-- A value says nothing of an error: an object has no such member, and a list or a text does not
have the word in it. -/
def Silent (data : Json) : Prop := data.mentions "error" = .ok false

/-- An object that reports an error as an object. -/
inductive Reports : Json → Prop
  | error {members error : List (String × Json)} :
      members.lookup "error" = some (.obj error) → Reports (.obj members)

/-- An exchange that fails as a source of content fails. -/
inductive Fails : Exchange → Prop
  | timeout : Fails .timeout
  | lost (description : String) : Fails (.lost description)
  | status {status : Int} {body : List UInt8} : 400 ≤ status → Fails (.answer status body)
  | unreadable {status : Int} {body : List UInt8} :
      status < 400 → HoldsNone body → Fails (.answer status body)
  | reported {status : Int} {body : List UInt8} {data : Json} :
      status < 400 → Holds body data → Reports data → Fails (.answer status body)

/-- An exchange that tells some data. -/
inductive Tells : Exchange → Json → Prop
  | answer {status : Int} {body : List UInt8} {data : Json} :
      status < 400 → Holds body data → Silent data → Tells (.answer status body) data

theorem Holds.unique (h : Holds body data) (h' : Holds body data') : data = data' := by
  obtain ⟨text, hdecode, hread⟩ := h
  obtain ⟨text', hdecode', hread'⟩ := h'
  cases hdecode.symm.trans hdecode'
  cases hread.symm.trans hread'
  rfl

/-- An answer with a good status that holds a value fails only if that is an object. -/
theorem Fails.isObject {status : Int} (h : Fails (.answer status body)) (hstatus : status < 400)
    (hholds : Holds body data) : IsObject data := by
  cases h with
  | status hlarge => omega
  | unreadable _ hnone =>
    obtain ⟨text, hdecode, hread⟩ := hholds
    obtain ⟨e, he, -⟩ := hnone text hdecode
    cases hread.symm.trans he
  | reported _ hholds' hreports =>
    obtain rfl := hholds.unique hholds'
    obtain ⟨-⟩ := hreports
    exact ⟨_, rfl⟩

theorem Tells.holds {status : Int} (h : Tells (.answer status body) data) : Holds body data := by
  obtain ⟨-, hholds, -⟩ := h
  exact hholds

theorem Tells.unique (h : Tells e data) (h' : Tells e data') : data = data' := by
  obtain ⟨-, hholds, -⟩ := h
  obtain ⟨-, hholds', -⟩ := h'
  exact hholds.unique hholds'

theorem readBody_eq_ok : readBody body = .ok data ↔ Holds body data := by
  rw [readBody, Holds]
  cases hdecode : Encoding.decode? body with
  | none => simp
  | some text =>
    cases hread : Json.read text with
    | ok v => simp [hread]
    | error e => cases e <;> simp [hread]

theorem readBody_eq_error :
    readBody body = .error f ↔ HoldsNone body ∧ f = .failure unreadable ∨
      (∃ text, Encoding.decode? body = some text ∧ Json.read text = .error .tooDeep) ∧
        f = .tooDeep := by
  rw [readBody, HoldsNone]
  cases hdecode : Encoding.decode? body with
  | none => simp [eq_comm]
  | some text =>
    cases hread : Json.read text with
    | ok v => simp [hread]
    | error e => cases e <;> simp [hread, eq_comm]

/-- A value that was read, unless it reports an error. -/
def checked (data : Json) : Except Fault Json := do
  if ← data.mentions "error" then throw (.failure (← reported (← data.memberAt "error")))
  return data

theorem readAnswer_eq {status : Int} (h : status < 400) :
    c.readAnswer params (.answer status body) = readBody body >>= checked := by
  rw [readAnswer, if_neg (by omega)]
  rfl

/-- An attempt fails as a source of content fails. -/
def FailsAsSource {α : Type} (r : Except Fault α) : Prop :=
  ∃ f, r = .error f ∧ f.isA .contentSource = true

/-- An attempt fails otherwise. -/
def Strays {α : Type} (r : Except Fault α) : Prop :=
  ∃ f, r = .error f ∧ f.isA .contentSource = false

theorem checked_of_silent (h : Silent data) : checked data = .ok data := by
  rw [checked, h]
  rfl

theorem checked_of_mentions (h : data.mentions "error" = .ok true) :
    checked data = (data.memberAt "error" >>= reported) >>= fun f => .error (.failure f) := by
  rw [checked, h]
  cases data.memberAt "error" with
  | error f => rfl
  | ok error =>
    cases hreported : reported error <;> simp [hreported, bind, Except.bind, throw, throwThe,
      MonadExceptOf.throw]

theorem failsAsSource_checked (h : Reports data) : FailsAsSource (checked data) := by
  obtain ⟨hlookup⟩ := h
  rename_i members error
  have hmentions : (Json.obj members).mentions "error" = .ok true := by
    rw [Json.mentions, hlookup]
    rfl
  have hmember : (Json.obj members).memberAt "error" = .ok (.obj error) := by
    rw [Json.memberAt, hlookup]
  rw [checked_of_mentions hmentions, hmember]
  exact ⟨_, rfl, rfl⟩

theorem strays_checked (hsilent : ¬ Silent data) (hreports : ¬ Reports data) :
    Strays (checked data) := by
  cases hmentions : data.mentions "error" with
  | error f =>
    refine ⟨.wrongShape, ?_, rfl⟩
    cases data <;> first | rfl | cases hmentions
  | ok found =>
    cases found with
    | false => exact absurd hmentions hsilent
    | true =>
      rw [checked_of_mentions hmentions]
      cases data with
      | obj members =>
        cases hlookup : members.lookup "error" with
        | none =>
          rw [Json.mentions, hlookup] at hmentions
          cases hmentions
        | some error =>
          have hmember : (Json.obj members).memberAt "error" = .ok error := by
            rw [Json.memberAt, hlookup]
          rw [hmember]
          cases error with
          | obj error => exact absurd (.error hlookup) hreports
          | _ => exact ⟨.notAnObject, rfl, rfl⟩
      | _ => exact ⟨.wrongShape, rfl, rfl⟩

theorem readAnswer_of_tells (h : Tells e data) (c : Client) (params : Parameters) :
    c.readAnswer params e = .ok data := by
  obtain ⟨hstatus, hholds, hsilent⟩ := h
  rw [readAnswer_eq hstatus, readBody_eq_ok.mpr hholds]
  exact checked_of_silent hsilent

theorem failsAsSource_readAnswer (h : Fails e) (c : Client) (params : Parameters) :
    FailsAsSource (c.readAnswer params e) := by
  cases h with
  | timeout => exact ⟨_, rfl, rfl⟩
  | lost description => exact ⟨_, rfl, rfl⟩
  | status hstatus =>
    rw [readAnswer, if_pos hstatus]
    exact ⟨_, rfl, rfl⟩
  | unreadable hstatus hnone =>
    rw [readAnswer_eq hstatus, readBody_eq_error.mpr (.inl ⟨hnone, rfl⟩)]
    exact ⟨_, rfl, rfl⟩
  | reported hstatus hholds hreports =>
    rw [readAnswer_eq hstatus, readBody_eq_ok.mpr hholds]
    exact failsAsSource_checked hreports

theorem strays_readAnswer (hfails : ¬ Fails e) (htells : ∀ data, ¬ Tells e data) (c : Client)
    (params : Parameters) : Strays (c.readAnswer params e) := by
  cases e with
  | timeout => exact absurd .timeout hfails
  | lost description => exact absurd (.lost description) hfails
  | answer status body =>
    have hstatus : status < 400 := by
      by_contra hlarge
      exact hfails (.status (by omega))
    rw [readAnswer_eq hstatus]
    cases hbody : readBody body with
    | ok data =>
      have hholds : Holds body data := readBody_eq_ok.mp hbody
      apply strays_checked
      · intro hsilent
        exact htells data (.answer hstatus hholds hsilent)
      · intro hreports
        exact hfails (.reported hstatus hholds hreports)
    | error f =>
      rcases readBody_eq_error.mp hbody with ⟨hnone, -⟩ | ⟨-, rfl⟩
      · exact absurd (.unreadable hstatus hnone) hfails
      · exact ⟨.tooDeep, rfl, rfl⟩

/-- What is sent for parameters. -/
def sentFor (params : Parameters) : Parameters := fixedParameters.overlay params.entries

/-- A wire on which one more request was sent. -/
def afterRequest (w : Wire) (params : Parameters) : Wire :=
  ⟨w.script.tail, w.sent.push (sentFor params).pairs⟩

/-- What is checked of an address and of where an exchange comes from. -/
def checksAt (a : Address) (params : Parameters) (e : Exchange) : Except Fault Unit :=
  if a.isWhole then
    (Origin.ofAddress a).shownHost >>= fun _ =>
      if e.isAnswer then (Origin.ofAddress a).checkBrackets else .ok ()
  else if e.isAnswer then .error (unknownKind a (sentFor params)) else .ok ()

/-- What is checked of a request, apart from what the exchange holds. -/
def checks (c : Client) (params : Parameters) (e : Exchange) : Except Fault Unit :=
  (c.destination (sentFor params)).mapError Fault.badAddress >>= fun a => checksAt a params e

/-- A request can be sent: there is an address to which its parameters can be written, the name of
the host can be read, and an answer can be told to come from there. -/
def Sends (c : Client) (params : Parameters) (e : Exchange) : Prop := c.checks params e = .ok ()

theorem runIn_send (w : Wire) (params : Parameters) :
    (Wire.send params).runIn w =
      (.ok (w.script.headD Wire.silence), ⟨w.script.tail, w.sent.push params.pairs⟩) := rfl

/-- A request fails in the checks, or comes to what its exchange is read as. -/
theorem runIn_request (c : Client) (params : Parameters) (w : Wire) :
    ∃ v, (c.request params).runIn w =
      (c.checks params (w.script.headD Wire.silence) >>= fun _ =>
        c.readAnswer params (w.script.headD Wire.silence), v) ∧
      (c.Sends params (w.script.headD Wire.silence) → v = afterRequest w params) := by
  have hok {α β : Type} (a : α) (g : α → Except Fault β) : (Except.ok a >>= g) = g a := rfl
  unfold Sends checks request sentFor
  cases hdestination : c.destination (fixedParameters.overlay params.entries) with
  | error d =>
    refine ⟨w, ?_, ?_⟩
    · simp only [runIn_bind, runIn_lift, hdestination]
      rfl
    · intro h
      cases h
  | ok a =>
    have hmap : (Except.ok a).mapError Fault.badAddress = .ok a := rfl
    simp only [runIn_bind, runIn_lift, hdestination, hmap, hok, checksAt, sentFor]
    generalize he : w.script.headD Wire.silence = e
    cases hwhole : a.isWhole with
    | false =>
      refine ⟨afterRequest w params, ?_, fun _ => rfl⟩
      simp only [Bool.false_eq_true, if_false, runIn_bind, runIn_send, he]
      cases e.isAnswer <;> rfl
    | true =>
      cases hhost : (Origin.ofAddress a).shownHost with
      | error f =>
        refine ⟨w, ?_, ?_⟩
        · simp only [if_true, runIn_bind, runIn_lift]
          rfl
        · intro h
          cases h
      | ok host =>
        refine ⟨afterRequest w params, ?_, fun _ => rfl⟩
        simp only [if_true, runIn_bind, runIn_lift, runIn_send, hok, he]
        cases e.isAnswer with
        | false => rfl
        | true =>
          simp only [if_true, runIn_bind, runIn_lift]
          cases (Origin.ofAddress a).checkBrackets <;> rfl

theorem astray_shownHost (o : Origin) : Astray o.shownHost := by
  rw [Origin.shownHost]
  split
  · exact astray_error rfl
  · exact Astray.mapError fun _ => rfl

theorem astray_checkBrackets (o : Origin) : Astray o.checkBrackets := by
  rw [Origin.checkBrackets]
  refine .ite (astray_ok ()) (.ite (astray_error rfl) (.ite (astray_error rfl) (astray_ok ())))

theorem astray_checks (c : Client) (params : Parameters) (e : Exchange) :
    Astray (c.checks params e) := by
  refine Astray.bind (Astray.mapError fun _ => rfl) fun a => ?_
  refine .ite ((astray_shownHost _).bind fun _ => ?_) (.ite (astray_error rfl) (astray_ok ()))
  exact .ite (astray_checkBrackets _) (astray_ok ())

/-- An attempt comes to something that `P` holds of, or fails as a source of content fails. -/
def KeepsTo {α : Type} (P : α → Prop) (r : Except Fault α) : Prop :=
  (∃ a, r = .ok a ∧ P a) ∨ FailsAsSource r

theorem Strays.not_keepsTo {α : Type} {P : α → Prop} {r : Except Fault α} (h : Strays r) :
    ¬ KeepsTo P r := by
  obtain ⟨f, rfl, hf⟩ := h
  rintro (⟨a, ha, -⟩ | ⟨g, hg, hsource⟩)
  · cases ha
  · cases hg
    rw [hf] at hsource
    cases hsource

theorem Astray.keepsTo_iff {α : Type} {P : α → Prop} {r : Except Fault α} (h : Astray r) :
    KeepsTo P r ↔ ∃ a, r = .ok a ∧ P a := by
  constructor
  · rintro (hok | ⟨f, hf, hsource⟩)
    · exact hok
    · rw [h f hf] at hsource
      cases hsource
  · exact .inl

/-- What an answer is read for keeps to something exactly if the exchange fails as a source does, or
tells data from which the rest keeps to it. -/
theorem keepsTo_readAnswer_bind {α : Type} {P : α → Prop} (c : Client) (params : Parameters)
    (e : Exchange) (g : Json → Except Fault α) :
    KeepsTo P (c.readAnswer params e >>= g) ↔
      Fails e ∨ ∃ data, Tells e data ∧ KeepsTo P (g data) := by
  by_cases hfails : Fails e
  · obtain ⟨f, hf, hsource⟩ := failsAsSource_readAnswer hfails c params
    rw [hf]
    exact iff_of_true (.inr ⟨f, rfl, hsource⟩) (.inl hfails)
  · rw [or_iff_right hfails]
    by_cases htells : ∃ data, Tells e data
    · obtain ⟨data, htells⟩ := htells
      have hbind : (c.readAnswer params e >>= g) = g data := by
        rw [readAnswer_of_tells htells]
        rfl
      rw [hbind]
      constructor
      · intro hkeeps
        exact ⟨data, htells, hkeeps⟩
      · rintro ⟨data', htells', hkeeps⟩
        obtain rfl := htells.unique htells'
        exact hkeeps
    · obtain ⟨f, hf, hother⟩ := strays_readAnswer hfails (not_exists.mp htells) c params
      rw [hf]
      refine iff_of_false (Strays.not_keepsTo ⟨f, rfl, hother⟩) ?_
      rintro ⟨data, hdata, -⟩
      exact htells ⟨data, hdata⟩

/-- What goes on from a request keeps to something exactly if the request can be sent and its
exchange fails as a source does, or tells data from which the rest keeps to it. -/
theorem keepsTo_request {α : Type} {P : α → Prop} (c : Client) (params : Parameters)
    (rest : Json → Action Wire α) (w : Wire) :
    KeepsTo P ((c.request params >>= rest).runIn w).1 ↔
      c.Sends params (w.script.headD Wire.silence) ∧
      (Fails (w.script.headD Wire.silence) ∨ ∃ data, Tells (w.script.headD Wire.silence) data ∧
        KeepsTo P ((rest data).runIn (afterRequest w params)).1) := by
  obtain ⟨v, hrun, hv⟩ := runIn_request c params w
  generalize w.script.headD Wire.silence = e at hrun hv ⊢
  have hrest : ((c.request params >>= rest).runIn w).1 =
      (c.checks params e >>= fun _ => c.readAnswer params e) >>= fun data =>
        ((rest data).runIn v).1 := by
    rw [runIn_bind, hrun]
    cases c.checks params e >>= fun _ => c.readAnswer params e <;> rfl
  rw [hrest]
  by_cases hsends : c.Sends params e
  · have hchecks : (c.checks params e >>= fun _ => c.readAnswer params e) =
        c.readAnswer params e := by
      rw [hsends]
      rfl
    rw [hchecks, hv hsends, and_iff_right hsends]
    exact keepsTo_readAnswer_bind c params e _
  · cases hchecks : c.checks params e with
    | ok u => exact absurd hchecks hsends
    | error f =>
      have hother := astray_checks c params e f hchecks
      exact iff_of_false (Strays.not_keepsTo ⟨f, rfl, hother⟩) fun h => hsends h.1

end WikiGateway.Client
