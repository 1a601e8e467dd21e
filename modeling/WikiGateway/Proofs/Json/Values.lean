import Mathlib.Data.List.Forall2
import WikiGateway.OrderedMap
import WikiGateway.Proofs.Json.Doubles
import WikiGateway.Proofs.Json.Strings

/-! Lists and objects of finite numbers that were written are read as they were. -/
namespace WikiGateway.Json

variable {room fuel : Nat} {cs rest : List Char} {c : Char} {v : Json} {x : Float}

theorem skipSpace_cons (h : isSpace c = false) (cs : List Char) :
    skipSpace (c :: cs) = c :: cs := by
  rw [skipSpace, List.dropWhile_cons, h]
  rfl

theorem skipSpace_blank (cs : List Char) : skipSpace (' ' :: cs) = skipSpace cs := rfl

/-- A text starts like a value: not with a blank, and not with the end of a list or an object. -/
def Starts (cs : List Char) : Prop :=
  ∃ c tail, cs = c :: tail ∧ isSpace c = false ∧ c ≠ ']' ∧ c ≠ '\x7d'

theorem Starts.append (h : Starts cs) (rest : List Char) : Starts (cs ++ rest) := by
  obtain ⟨c, tail, rfl, hstarts⟩ := h
  exact ⟨c, tail ++ rest, rfl, hstarts⟩

theorem Starts.skipSpace (h : Starts cs) : skipSpace cs = cs := by
  obtain ⟨c, tail, rfl, hspace, -⟩ := h
  exact skipSpace_cons hspace tail

/-- A text is read as a value to its end, wherever it stands in a list or an object. -/
structure ReadsAs (room : Nat) (cs : List Char) (v : Json) : Prop where
  starts : Starts cs
  reads (fuel : Nat) (rest : List Char) : cs.length ≤ fuel → Delimited rest →
    readValue room fuel (cs ++ rest) = .ok (v, rest)

/-- A text that holds one value is read as it. -/
theorem ReadsAs.read {text : String} (h : ReadsAs mostNested text.toList v) :
    read text = .ok v := by
  have hreads := h.reads (2 * text.toList.length + 2) [] (by omega) delimited_nil
  rw [List.append_nil] at hreads
  rw [Json.read, h.starts.skipSpace, hreads]
  rfl

theorem isSpace_of_isDigit (h : c.isDigit = true) : isSpace c = false := by
  rw [← Bool.not_eq_true]
  intro hspace
  simp only [isSpace, Bool.or_eq_true, beq_iff_eq] at hspace
  rcases hspace with ((rfl | rfl) | rfl) | rfl <;> cases h

theorem readsAs_float (hfinite : x.isFinite = true) (room : Nat) :
    ReadsAs room (write (.float x)).toList (.float x) := by
  have h := readsBack hfinite
  obtain ⟨c, cs, hdigit, htext | htext⟩ := write_float hfinite
  · have hspace := isSpace_of_isDigit hdigit
    rw [ReadsBack, htext, readValue_digit hdigit] at h
    rw [htext]
    have hlist : c ≠ ']' := ne_of_isDigit hdigit (by decide)
    have hobject : c ≠ '\x7d' := ne_of_isDigit hdigit (by decide)
    refine ⟨⟨c, cs, rfl, hspace, hlist, hobject⟩, fun fuel rest hfuel hrest => ?_⟩
    obtain ⟨fuel, rfl⟩ := Nat.exists_eq_add_one_of_ne_zero (Nat.ne_zero_of_lt hfuel)
    exact (readValue_digit hdigit _).trans (readNumber_append h hrest)
  · rw [ReadsBack, htext, readValue_minus hdigit] at h
    rw [htext]
    refine ⟨⟨'-', c :: cs, rfl, by decide, by decide, by decide⟩, fun fuel rest hfuel hrest => ?_⟩
    obtain ⟨fuel, rfl⟩ := Nat.exists_eq_add_one_of_ne_zero (Nat.ne_zero_of_lt hfuel)
    exact (readValue_minus hdigit _).trans (readNumber_append h hrest)

theorem readItems_step {read : List Json} {after : List Char} (h : ReadsAs room cs v)
    (hfuel : cs.length ≤ fuel) (hafter : Delimited after) :
    readItems room (fuel + 1) read (cs ++ after) =
      match skipSpace after with
      | ']' :: rest => .ok (arr (v :: read).reverse, rest)
      | ',' :: rest => readItems room fuel (v :: read) (skipSpace rest)
      | _ => .error .syntaxError := by
  rw [readItems, h.reads fuel after hfuel hafter]
  rfl

theorem delimited_cons (hc : c = ',' ∨ c = ']' ∨ c = '\x7d') (rest : List Char) :
    Delimited (c :: rest) := by
  rintro _ ⟨⟩
  exact hc

/-- Texts one after the other, with a comma and a blank between two of them. -/
def joined (texts : List (List Char)) : List Char := [',', ' '].intercalate texts

theorem joined_singleton (text : List Char) : joined [text] = text := List.intercalate_singleton

theorem joined_cons_cons (first second : List Char) (texts : List (List Char)) :
    joined (first :: second :: texts) = first ++ ',' :: ' ' :: joined (second :: texts) := by
  rw [joined, List.intercalate_cons_cons, List.append_assoc]
  rfl

theorem Starts.joined (h : Starts cs) (texts : List (List Char)) :
    Starts (joined (cs :: texts)) := by
  cases texts with
  | nil =>
    rw [joined_singleton]
    exact h
  | cons text texts =>
    rw [joined_cons_cons]
    exact h.append _

theorem readItems_joined {first : List Char} {texts : List (List Char)} {vs : List Json}
    (hfirst : ReadsAs room first v) (hvs : List.Forall₂ (ReadsAs room) texts vs)
    (hfuel : (joined (first :: texts)).length < fuel) (read : List Json) :
    readItems room fuel read (joined (first :: texts) ++ ']' :: rest) =
      .ok (arr (read.reverse ++ v :: vs), rest) := by
  induction hvs generalizing first v fuel read with
  | nil =>
    obtain ⟨fuel, rfl⟩ := Nat.exists_eq_add_one_of_ne_zero (Nat.ne_zero_of_lt hfuel)
    rw [joined_singleton] at hfuel ⊢
    rw [readItems_step hfirst (Nat.le_of_lt_succ hfuel) (delimited_cons (by simp) _),
      skipSpace_cons (by decide), List.reverse_cons]
    rfl
  | @cons second w texts vs hsecond hvs ih =>
    obtain ⟨fuel, rfl⟩ := Nat.exists_eq_add_one_of_ne_zero (Nat.ne_zero_of_lt hfuel)
    rw [joined_cons_cons] at hfuel ⊢
    rw [List.length_append, List.length_cons, List.length_cons] at hfuel
    have hshorter : (joined (second :: texts)).length < fuel := by omega
    have hread := ih hsecond hshorter (v :: read)
    rw [List.reverse_cons, List.append_assoc] at hread
    rw [List.append_assoc, List.cons_append, List.cons_append,
      readItems_step hfirst (by omega) (delimited_cons (by simp) _), skipSpace_cons (by decide)]
    simp only [skipSpace_blank, ((hsecond.starts.joined texts).append _).skipSpace, hread]
    rfl

theorem readValue_list {body : List Char} (h : Starts body) :
    readValue (room + 1) (fuel + 1) ('[' :: body) = readItems room fuel [] body := by
  have hskip := h.skipSpace
  obtain ⟨c, tail, rfl, -, hend, -⟩ := h
  rw [readValue.eq_def]
  simp [hskip, hend]

/-- A list is read as such if its items are, with room for one list more. -/
theorem readsAs_list {texts : List (List Char)} {vs : List Json}
    (h : List.Forall₂ (ReadsAs room) texts vs) :
    ReadsAs (room + 1) ('[' :: (joined texts ++ [']'])) (arr vs) := by
  refine ⟨⟨'[', _, rfl, by decide, by decide, by decide⟩, fun fuel rest hfuel hrest => ?_⟩
  obtain ⟨fuel, rfl⟩ := Nat.exists_eq_add_one_of_ne_zero (Nat.ne_zero_of_lt hfuel)
  have hlength : (joined texts).length + 1 ≤ fuel := by simpa using hfuel
  cases h with
  | nil => rfl
  | @cons first w texts vs hfirst hvs =>
    rw [List.cons_append, List.append_assoc]
    exact (readValue_list ((hfirst.starts.joined texts).append _)).trans
      (readItems_joined hfirst hvs hlength [])

/-- A member of an object: its name as a string, and its value after a colon and a blank. -/
def memberText (key : String) (text : List Char) : List Char :=
  '"' :: (key.toList.flatMap escape ++ '"' :: ':' :: ' ' :: text)

/-- A text is that of a member of which the value is read. -/
def MemberAs (room : Nat) (text : List Char) (member : String × Json) : Prop :=
  ∃ cs, text = memberText member.1 cs ∧ ReadsAs room cs member.2

theorem MemberAs.starts {text : List Char} {member : String × Json}
    (h : MemberAs room text member) : Starts text := by
  obtain ⟨cs, rfl, -⟩ := h
  exact ⟨'"', _, rfl, by decide, by decide, by decide⟩

/-- A member with a new name is read as the last one. -/
theorem readMembers_step {read : List (String × Json)} {text after : List Char}
    {member : String × Json} (h : MemberAs room text member) (hfuel : text.length ≤ fuel)
    (hafter : Delimited after) (hnew : member.1 ∉ read.map Prod.fst) :
    readMembers room (fuel + 1) read (text ++ after) =
      match skipSpace after with
      | '\x7d' :: rest => .ok (obj (read ++ [member]), rest)
      | ',' :: rest => readMembers room fuel (read ++ [member]) (skipSpace rest)
      | _ => .error .syntaxError := by
  obtain ⟨cs, rfl, hcs⟩ := h
  have htext : memberText member.1 cs ++ after =
      '"' :: (member.1.toList.flatMap escape ++ '"' :: ':' :: ' ' :: (cs ++ after)) := by
    simp [memberText]
  have hlength : cs.length ≤ fuel := by
    rw [memberText, List.length_cons, List.length_append] at hfuel
    simp only [List.length_cons] at hfuel
    omega
  rw [htext, readMembers.eq_def]
  simp only [readString_name, skipSpace_cons (c := ':') (by decide), skipSpace_blank,
    (hcs.starts.append after).skipSpace, hcs.reads fuel after hlength hafter, bind, Except.bind,
    putEntry_new hnew]
  rfl

theorem new_of_nodup {read members : List (String × Json)} {member : String × Json}
    (h : ((read ++ member :: members).map Prod.fst).Nodup) : member.1 ∉ read.map Prod.fst := by
  rw [List.map_append, List.nodup_append] at h
  intro hmem
  exact h.2.2 _ hmem _ List.mem_cons_self rfl

theorem readMembers_joined {first : List Char} {member : String × Json} {texts : List (List Char)}
    {members : List (String × Json)} (hfirst : MemberAs room first member)
    (hmembers : List.Forall₂ (MemberAs room) texts members)
    (hfuel : (joined (first :: texts)).length < fuel) (read : List (String × Json))
    (hnodup : ((read ++ member :: members).map Prod.fst).Nodup) :
    readMembers room fuel read (joined (first :: texts) ++ '\x7d' :: rest) =
      .ok (obj (read ++ member :: members), rest) := by
  induction hmembers generalizing first member fuel read with
  | nil =>
    obtain ⟨fuel, rfl⟩ := Nat.exists_eq_add_one_of_ne_zero (Nat.ne_zero_of_lt hfuel)
    have hnew := new_of_nodup hnodup
    rw [joined_singleton] at hfuel ⊢
    rw [readMembers_step hfirst (Nat.le_of_lt_succ hfuel) (delimited_cons (by simp) _) hnew,
      skipSpace_cons (by decide)]
    rfl
  | @cons second other texts members hsecond hmembers ih =>
    obtain ⟨fuel, rfl⟩ := Nat.exists_eq_add_one_of_ne_zero (Nat.ne_zero_of_lt hfuel)
    have hnew := new_of_nodup hnodup
    rw [joined_cons_cons] at hfuel ⊢
    rw [List.length_append, List.length_cons, List.length_cons] at hfuel
    have hshorter : (joined (second :: texts)).length < fuel := by omega
    have hread := ih hsecond hshorter (read ++ [member]) (by simpa using hnodup)
    rw [List.append_assoc] at hread
    rw [List.append_assoc, List.cons_append, List.cons_append,
      readMembers_step hfirst (by omega) (delimited_cons (by simp) _) hnew,
      skipSpace_cons (by decide)]
    simp only [skipSpace_blank, ((hsecond.starts.joined texts).append _).skipSpace, hread]
    rfl

theorem readValue_object {body : List Char} (h : Starts body) :
    readValue (room + 1) (fuel + 1) ('\x7b' :: body) = readMembers room fuel [] body := by
  have hskip := h.skipSpace
  obtain ⟨c, tail, rfl, -, -, hend⟩ := h
  rw [readValue.eq_def]
  simp [hskip, hend]

/-- An object is read as such if its members are, with room for one object more. -/
theorem readsAs_object {texts : List (List Char)} {members : List (String × Json)}
    (h : List.Forall₂ (MemberAs room) texts members) (hnodup : (members.map Prod.fst).Nodup) :
    ReadsAs (room + 1) ('\x7b' :: (joined texts ++ ['\x7d'])) (obj members) := by
  refine ⟨⟨'\x7b', _, rfl, by decide, by decide, by decide⟩, fun fuel rest hfuel hrest => ?_⟩
  obtain ⟨fuel, rfl⟩ := Nat.exists_eq_add_one_of_ne_zero (Nat.ne_zero_of_lt hfuel)
  have hlength : (joined texts).length + 1 ≤ fuel := by simpa using hfuel
  cases h with
  | nil => rfl
  | @cons first member texts members hfirst hmembers =>
    rw [List.cons_append, List.append_assoc]
    exact (readValue_object ((hfirst.starts.joined texts).append _)).trans
      (readMembers_joined hfirst hmembers hlength [] hnodup)

theorem toList_write_arr (vs : List Json) :
    (write (arr vs)).toList = '[' :: (joined (vs.map fun v => v.write.toList) ++ [']']) := by
  have hitems (vs : List Json) : writeItems vs = vs.map write := by
    induction vs with
    | nil => rfl
    | cons v vs ih => rw [writeItems, ih, List.map_cons]
  rw [write, hitems, String.toList_append, String.toList_append, String.toList_intercalate,
    List.map_map]
  rfl

theorem toList_write_obj (members : List (String × Json)) : (write (obj members)).toList =
    '\x7b' :: (joined (members.map fun m => memberText m.1 m.2.write.toList) ++ ['\x7d']) := by
  have hmembers (members : List (String × Json)) :
      (writeMembers members).map String.toList =
        members.map fun m => memberText m.1 m.2.write.toList := by
    induction members with
    | nil => rfl
    | cons m members ih =>
      rw [writeMembers, List.map_cons, List.map_cons, ih]
      simp [writeString, memberText]
  rw [write, String.toList_append, String.toList_append, String.toList_intercalate, hmembers]
  rfl

/-- What was written of a value is read as that value. -/
def Readable (room : Nat) (v : Json) : Prop := ReadsAs room v.write.toList v

theorem readable_str (s : String) (room : Nat) : Readable room (.str s) := by
  have htext : (write (.str s)).toList = '"' :: (s.toList.flatMap escape ++ ['"']) := by
    simp [write, writeString]
  rw [Readable, htext]
  refine ⟨⟨'"', _, rfl, by decide, by decide, by decide⟩, fun fuel rest hfuel _ => ?_⟩
  obtain ⟨fuel, rfl⟩ := Nat.exists_eq_add_one_of_ne_zero (Nat.ne_zero_of_lt hfuel)
  have hread := readString_name s rest
  rw [List.cons_append, List.append_assoc, List.singleton_append, readValue.eq_def]
  simp only [hread]
  rfl

theorem readable_arr {vs : List Json} (h : ∀ v ∈ vs, Readable room v) :
    Readable (room + 1) (arr vs) := by
  rw [Readable, toList_write_arr]
  exact readsAs_list (List.forall₂_map_left_iff.mpr (List.forall₂_same.mpr h))

theorem readable_obj {members : List (String × Json)} (h : ∀ m ∈ members, Readable room m.2)
    (hnodup : (members.map Prod.fst).Nodup) : Readable (room + 1) (obj members) := by
  rw [Readable, toList_write_obj]
  refine readsAs_object ?_ hnodup
  refine List.forall₂_map_left_iff.mpr (List.forall₂_same.mpr fun m hm => ?_)
  exact ⟨_, rfl, h m hm⟩

end WikiGateway.Json
