import TableTalk.Proofs.Shell.Conversation

/-! Output that fails. A sink with room for so many bytes takes the beginning of what an open
sink takes; the first line that it cannot take whole ends the conversation, and until then
nothing is different. -/
namespace TableTalk

namespace Sink
variable {s s' t : Sink} {n : Nat} {message : String} {lines : List String}

theorem write_of_open (h : s.room = none) (bytes : Bytes) :
    (s.write bytes).1 = .ok () ∧ (s.write bytes).2.room = none := by
  simp only [write, h, and_self]

theorem writeLines_of_open (h : s.room = none) (lines : List String) :
    (s.writeLines lines).1 = .ok () ∧ (s.writeLines lines).2.room = none := by
  induction lines generalizing s with
  | nil => exact ⟨rfl, h⟩
  | cons line lines ih =>
    obtain ⟨hok, hopen⟩ := write_of_open h (Utf8.encode (line ++ "\n"))
    rcases hline : s.write (Utf8.encode (line ++ "\n")) with ⟨f | u, t⟩ <;> rw [hline] at hok hopen
    · cases hok
    · simp only [writeLines, hline]
      exact ih hopen

/-- What has been taken stays. -/
theorem bytes_prefix_writeLines (s : Sink) (lines : List String) :
    s.bytes <+: (s.writeLines lines).2.bytes := by
  induction lines generalizing s with
  | nil => exact List.prefix_refl _
  | cons line lines ih =>
    have hline : s.bytes <+: (s.write (Utf8.encode (line ++ "\n"))).2.bytes := by
      rw [write_bytes]
      exact List.prefix_append _ _
    rcases hwrite : s.write (Utf8.encode (line ++ "\n")) with ⟨f | u, t⟩ <;>
      rw [hwrite] at hline <;>
      simp only [writeLines, hwrite]
    · exact hline
    · exact hline.trans (ih t)

/-- Two sinks that have taken the same. One is open, the other takes no more than `n` bytes
in all. -/
structure Capped (n : Nat) (message : String) (s t : Sink) : Prop where
  unbounded : s.room = none
  room : t.room = some (n - s.bytes.length)
  length_le : s.bytes.length ≤ n
  bytes : t.bytes = s.bytes
  message : t.message = message

/-- The capped sink is full, and the open one has taken more. -/
structure Cut (n : Nat) (s t : Sink) : Prop where
  lt_length : n < s.bytes.length
  bytes : t.bytes = s.bytes.take n

theorem Cut.of_prefix (h : Cut n s t) (hmore : s.bytes <+: s'.bytes) : Cut n s' t where
  lt_length := Nat.lt_of_lt_of_le h.lt_length hmore.length_le
  bytes := by
    obtain ⟨more, hmore⟩ := hmore
    rw [← hmore, List.take_append_of_le_length (Nat.le_of_lt h.lt_length), h.bytes]

/-- A write goes the same way in both sinks, or is the first that the capped one cannot
take whole. -/
theorem Capped.write (h : Capped n message s t) (bytes : Bytes) :
    (t.write bytes).1 = .ok () ∧ Capped n message (s.write bytes).2 (t.write bytes).2 ∨
      (t.write bytes).1 = .error ⟨.stream message, none⟩ ∧
      Cut n (s.write bytes).2 (t.write bytes).2 := by
  have hle := h.length_le
  have hopen : (s.write bytes).2.bytes = s.bytes ++ bytes := by
    rw [write_bytes, h.unbounded, Option.elim_none]
  have hcapped : (t.write bytes).2.bytes = s.bytes ++ bytes.take (n - s.bytes.length) := by
    rw [write_bytes, h.room, Option.elim_some, h.bytes]
  by_cases hfits : bytes.length ≤ n - s.bytes.length
  · left
    have hwrite : (t.write bytes).1 = .ok () ∧
        (t.write bytes).2.room = some (n - s.bytes.length - bytes.length) := by
      simp only [Sink.write, h.room, if_pos hfits, and_self]
    refine ⟨hwrite.1, (write_of_open h.unbounded bytes).2, ?_, ?_, ?_, ?_⟩
    · rw [hwrite.2, hopen, List.length_append, Nat.sub_add_eq]
    · rw [hopen, List.length_append]
      omega
    · rw [hcapped, hopen, List.take_of_length_le hfits]
    · rw [write_message, h.message]
  · right
    refine ⟨?_, ?_, ?_⟩
    · simp only [Sink.write, h.room, if_neg hfits, h.message]
    · rw [hopen, List.length_append]
      omega
    · rw [hcapped, hopen, List.take_append, List.take_of_length_le hle]

theorem Capped.writeLines (h : Capped n message s t) (lines : List String) :
    (t.writeLines lines).1 = .ok () ∧
      Capped n message (s.writeLines lines).2 (t.writeLines lines).2 ∨
      (t.writeLines lines).1 = .error ⟨.stream message, none⟩ ∧
        Cut n (s.writeLines lines).2 (t.writeLines lines).2 := by
  induction lines generalizing s t with
  | nil => exact .inl ⟨rfl, h⟩
  | cons line lines ih =>
    have hopen := (write_of_open h.unbounded (Utf8.encode (line ++ "\n"))).1
    have hline := h.write (Utf8.encode (line ++ "\n"))
    rcases hs : s.write (Utf8.encode (line ++ "\n")) with ⟨f | u, s'⟩ <;> rw [hs] at hopen hline
    · cases hopen
    · rcases ht : t.write (Utf8.encode (line ++ "\n")) with ⟨f | u, t'⟩ <;> rw [ht] at hline <;>
        simp only [Sink.writeLines, hs, ht]
      · rcases hline with ⟨hok, -⟩ | ⟨hfailed, hcut⟩
        · cases hok
        · exact .inr ⟨hfailed, hcut.of_prefix (s'.bytes_prefix_writeLines lines)⟩
      · rcases hline with ⟨-, hboth⟩ | ⟨hfailed, -⟩
        · exact ih hboth
        · cases hfailed

end Sink

namespace Shell
variable {n : Nat} {message : String}

namespace Transcript
variable {t u v : Transcript}

/-- Prompts, history and output of one transcript are the beginnings of another's. -/
structure Begins (t u : Transcript) : Prop where
  prompts : t.prompts.toList <+: u.prompts.toList
  history : t.history.toList <+: u.history.toList
  bytes : t.sink.bytes <+: u.sink.bytes

theorem Begins.refl (t : Transcript) : t.Begins t :=
  ⟨List.prefix_refl _, List.prefix_refl _, List.prefix_refl _⟩

theorem Begins.trans (h : t.Begins u) (h' : u.Begins v) : t.Begins v :=
  ⟨h.prompts.trans h'.prompts, h.history.trans h'.history, h.bytes.trans h'.bytes⟩

theorem begins_answered (t : Transcript) (reading : Reading) : t.Begins (t.answered reading) where
  prompts := by
    rw [answered_prompts]
    exact List.prefix_append _ _
  history := by
    cases reading with
    | line line =>
      simp only [answered, remember]
      split
      · rw [Array.toList_push]
        exact List.prefix_append _ _
      · exact List.prefix_refl _
    | interrupt | endOfInput | broken message => exact List.prefix_refl _
  bytes := t.sink.bytes_prefix_writeLines _

/-- The answer to a reading is all that is left, or the run goes on with the other readings. -/
theorem run_cons_cases (t : Transcript) (reading : Reading) (readings : List Reading) :
    (t.run (reading :: readings)).2 = t.answered reading ∨
      t.run (reading :: readings) = (t.answered reading).run readings := by
  rw [run_cons]
  rcases (t.sink.writeLines (t.shell.answer reading).1.lines).1 with f | u
  · exact .inl rfl
  · cases (t.shell.answer reading).1.ending with
    | some result => exact .inl rfl
    | none => exact .inr rfl

theorem begins_run (t : Transcript) (readings : List Reading) : t.Begins (t.run readings).2 := by
  induction readings generalizing t with
  | nil =>
    refine ⟨?_, List.prefix_refl _, List.prefix_refl _⟩
    rw [run, Array.toList_push]
    exact List.prefix_append _ _
  | cons reading readings ih =>
    have hanswered := t.begins_answered reading
    rcases t.run_cons_cases reading readings with hrun | hrun <;> rw [hrun]
    · exact hanswered
    · exact hanswered.trans (ih (t.answered reading))

theorem answered_begins_run (t : Transcript) (reading : Reading) (readings : List Reading) :
    (t.answered reading).Begins (t.run (reading :: readings)).2 := by
  rcases t.run_cons_cases reading readings with hrun | hrun <;> rw [hrun]
  · exact .refl _
  · exact begins_run _ _

/-- Two transcripts that differ in their sinks only. -/
structure Capped (n : Nat) (message : String) (t u : Transcript) : Prop where
  shell : u.shell = t.shell
  prompts : u.prompts = t.prompts
  history : u.history = t.history
  sink : t.sink.Capped n message u.sink

/-- The capped transcript ends where the open one goes on. -/
structure Cut (n : Nat) (t u : Transcript) : Prop where
  prompts : u.prompts.toList <+: t.prompts.toList
  history : u.history.toList <+: t.history.toList
  sink : t.sink.Cut n u.sink

theorem Cut.of_begins (h : Cut n t u) (hmore : t.Begins v) : Cut n v u :=
  ⟨h.prompts.trans hmore.prompts, h.history.trans hmore.history, h.sink.of_prefix hmore.bytes⟩

/-- Without their sinks, the answers leave the same. -/
theorem Capped.answered_eq (h : Capped n message t u) (reading : Reading) :
    (u.answered reading).shell = (t.answered reading).shell ∧
      (u.answered reading).prompts = (t.answered reading).prompts ∧
      (u.answered reading).history = (t.answered reading).history := by
  obtain ⟨hshell, hprompts, hhistory, -⟩ := h
  cases reading with
  | line line =>
    simp only [answered, remember, hshell, hprompts, hhistory, true_and]
    split <;> exact ⟨rfl, rfl⟩
  | interrupt | endOfInput | broken message =>
    simp only [answered, remember, hshell, hprompts, hhistory, and_self]

theorem Capped.run (h : Capped n message t u) (readings : List Reading) :
    (u.run readings).1 = (t.run readings).1 ∧
        Capped n message (t.run readings).2 (u.run readings).2 ∨
      (u.run readings).1 = .error ⟨.stream message, none⟩ ∧
        Cut n (t.run readings).2 (u.run readings).2 := by
  induction readings generalizing t u with
  | nil =>
    obtain ⟨hshell, hprompts, hhistory, hsink⟩ := h
    exact .inl ⟨rfl, hshell, by simp only [Transcript.run, hprompts, hshell], hhistory, hsink⟩
  | cons reading readings ih =>
    obtain ⟨hshell, hprompts, hhistory⟩ := h.answered_eq reading
    have hopen := (Sink.writeLines_of_open h.sink.unbounded (t.shell.answer reading).1.lines).1
    have hbegins := t.answered_begins_run reading readings
    have hcapped := u.run_cons reading readings
    rw [h.shell] at hcapped
    rcases h.sink.writeLines (t.shell.answer reading).1.lines with ⟨hok, hsink⟩ | ⟨hfailed, hcut⟩
    · have hboth : Capped n message (t.answered reading) (u.answered reading) :=
        ⟨hshell, hprompts, hhistory, by simpa only [answered, h.shell] using hsink⟩
      rw [hcapped, t.run_cons reading readings, hok, hopen]
      cases (t.shell.answer reading).1.ending with
      | some result => exact .inl ⟨rfl, hboth⟩
      | none => exact ih hboth
    · have hends : Cut n (t.answered reading) (u.answered reading) := by
        refine ⟨?_, ?_, by simpa only [answered, h.shell] using hcut⟩
        · rw [hprompts]
        · rw [hhistory]
      rw [hcapped, hfailed]
      exact .inr ⟨rfl, hends.of_begins hbegins⟩

end Transcript

theorem run_capped (sh : Shell) (readings : List Reading) {s t : Sink} (h : s.Capped n message t) :
    (sh.run readings t).1 = (sh.run readings s).1 ∧
        Transcript.Capped n message (sh.run readings s).2 (sh.run readings t).2 ∨
      (sh.run readings t).1 = .error ⟨.stream message, none⟩ ∧
        Transcript.Cut n (sh.run readings s).2 (sh.run readings t).2 := by
  have hopen : (sh.greet s).1 = .ok () := (Sink.writeLines_of_open h.unbounded _).1
  rw [run_eq, run_eq, hopen]
  rcases h.writeLines (if sh.banner then bannerLines else []) with ⟨hok, hsink⟩ | ⟨hfailed, hcut⟩
  · have hgreeted : (sh.greet t).1 = .ok () := hok
    rw [hgreeted]
    have hboth : Transcript.Capped n message { shell := sh, sink := (sh.greet s).2 }
        { shell := sh, sink := (sh.greet t).2 } := ⟨rfl, rfl, rfl, hsink⟩
    exact hboth.run readings
  · have hgreeted : (sh.greet t).1 = .error ⟨.stream message, none⟩ := hfailed
    rw [hgreeted]
    have hnone :
        Transcript.Cut n { shell := sh, sink := (sh.greet s).2 }
          { shell := sh, sink := (sh.greet t).2 } :=
      ⟨List.prefix_refl _, List.prefix_refl _, hcut⟩
    exact .inr ⟨rfl, hnone.of_begins (Transcript.begins_run _ readings)⟩

/-- A sink that fails after `n` bytes has taken the first of the bytes that an open one takes, and
as many as it can. If these are all, nothing is different; if not, the run ends with the sink's own
failure, at a point that the other run passes as well. -/
theorem run_truncated (sh : Shell) (readings : List Reading) (n : Nat) (message : String) :
    let full := sh.run readings {}
    let cut := sh.run readings { room := some n, message }
    cut.2.sink.bytes = full.2.sink.bytes.take n ∧
      (full.2.sink.bytes.length ≤ n →
        cut.1 = full.1 ∧ cut.2.prompts = full.2.prompts ∧ cut.2.history = full.2.history) ∧
      (n < full.2.sink.bytes.length →
        cut.1 = .error ⟨.stream message, none⟩ ∧ cut.2.prompts.toList <+: full.2.prompts.toList ∧
          cut.2.history.toList <+: full.2.history.toList) := by
  intro full cut
  have hsinks : Sink.Capped n message {} { room := some n, message } :=
    ⟨rfl, rfl, Nat.zero_le n, rfl, rfl⟩
  rcases sh.run_capped readings hsinks with ⟨hresult, hsame⟩ | ⟨hresult, hcut⟩
  · have hle : full.2.sink.bytes.length ≤ n := hsame.sink.length_le
    refine ⟨?_, fun _ => ⟨hresult, hsame.prompts, hsame.history⟩,
      fun hlt => absurd hle (Nat.not_le.mpr hlt)⟩
    rw [List.take_of_length_le hle]
    exact hsame.sink.bytes
  · have hlt : n < full.2.sink.bytes.length := hcut.sink.lt_length
    exact ⟨hcut.sink.bytes, fun hle => absurd hle (Nat.not_le.mpr hlt),
      fun _ => ⟨hresult, hcut.prompts, hcut.history⟩⟩

/-- A sink that is full within the answer to the second line. -/
theorem run_truncated_inside :
    let sh : Shell := { session := .fresh fun _ => none, banner := false }
    let readings : List Reading := [.line "LOOK", .line "say", .interrupt]
    let full := sh.run readings {}
    let cut := sh.run readings { room := some 40 }
    full.1 = .ok () ∧ 40 < full.2.sink.bytes.length ∧
      cut.1 = .error ⟨.stream "sink full", none⟩ ∧ cut.2.sink.bytes = full.2.sink.bytes.take 40 ∧
      cut.2.history.toList <+: full.2.history.toList := by
  intro sh readings full cut
  have hlong : 40 < full.2.sink.bytes.length := by decide +kernel
  have hfull : full.1 = .ok () := by decide +kernel
  obtain ⟨hbytes, -, hshort⟩ := sh.run_truncated readings 40 "sink full"
  obtain ⟨hresult, -, hhistory⟩ := hshort hlong
  exact ⟨hfull, hlong, hresult, hbytes, hhistory⟩

end Shell
end TableTalk
