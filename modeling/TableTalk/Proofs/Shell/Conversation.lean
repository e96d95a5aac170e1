import Mathlib.Data.List.Infix
import TableTalk.Proofs.Shell.Leaving

/-! Whole conversations. Before each reading nothing waits but an open name; and the talk goes on
until a line asks to leave, the input ends, or reading or writing fails. -/
namespace TableTalk

namespace Sink
variable {s t : Sink} {f : Failure}

/-- Once some lines are written, others are written behind them. -/
theorem writeLines_append {lines : List String} (h : (s.writeLines lines).1 = .ok ())
    (more : List String) :
    s.writeLines (lines ++ more) = (s.writeLines lines).2.writeLines more := by
  induction lines generalizing s with
  | nil => rfl
  | cons line lines ih =>
    rw [List.cons_append]
    rcases hline : s.write (Utf8.encode (line ++ "\n")) with ⟨f | u, t⟩ <;>
      simp only [writeLines, hline] at h ⊢
    · cases h
    · exact ih h

theorem write_message (s : Sink) (bytes : Bytes) : (s.write bytes).2.message = s.message := by
  cases h : s.room with
  | none => simp only [write, h]
  | some n => by_cases hn : bytes.length ≤ n <;> simp only [write, h, hn, if_true, if_false]

theorem write_eq_error {bytes : Bytes} (h : (s.write bytes).1 = .error f) :
    f = ⟨.stream s.message, none⟩ := by
  cases hroom : s.room with
  | none => simp only [write, hroom] at h; cases h
  | some n =>
    by_cases hn : bytes.length ≤ n <;> simp only [write, hroom, hn, if_true, if_false] at h <;>
      cases h
    rfl

theorem writeLines_eq_error {lines : List String} (h : (s.writeLines lines).1 = .error f) :
    f = ⟨.stream s.message, none⟩ := by
  induction lines generalizing s with
  | nil => cases h
  | cons line lines ih =>
    rw [writeLines] at h
    split at h
    · next t ht =>
      rw [ih h, ← s.write_message (Utf8.encode (line ++ "\n")), ht]
    · exact write_eq_error h

end Sink

namespace Session
open Grammar
open Lexing (newline)

/-- Behind a newline nothing waits but an open name. -/
theorem feed_line (s : Session) (text : Bytes) :
    let t := (s.feed (text ++ [newline])).2
    t.pending = [] ∨
      t.pending.head? = some '"'.toUInt8 ∧ t.lexer.frontName t.pending = .unfinished := by
  rcases hlex : s.lexer.lex [s.pending ++ (text ++ [newline])] s.buffer.clear with ⟨f | c, b⟩
  · rw [feed_of_error hlex]
    exact .inl rfl
  · rw [feed_of_ok hlex]
    split
    · exact .inl rfl
    · rw [Lexer.lex_eq, List.flatten_singleton] at hlex
      obtain ⟨rfl, -⟩ := Scan.of_into_ok hlex
      have hfront := s.lexer.front_leftover (s.pending ++ (text ++ [newline]))
      by_cases hnone : (s.pending ++ (text ++ [newline])).drop
          (s.lexer.scan 0 (s.pending ++ (text ++ [newline]))).consumed = []
      · exact .inl hnone
      · -- The newline is the last byte, so it is left over if anything is.
        have hlast := List.getLast_mem hnone
        simp only [List.getLast_drop, ← List.append_assoc, List.getLast_concat] at hlast
        rw [List.append_assoc] at hlast
        have hhead := s.lexer.quotation_of_unfinished hfront hlast
        obtain ⟨body, hbody⟩ := List.head?_eq_some_iff.mp hhead
        refine .inr ⟨hhead, ?_⟩
        rw [hbody] at hfront ⊢
        exact hfront

end Session

namespace Shell
variable {sh : Shell} {sink : Sink} {reading : Reading} {readings : List Reading} {line : String}
  {result : Except Failure Unit}

/-- The shell after some readings. -/
def after (sh : Shell) (readings : List Reading) : Shell :=
  readings.foldl (fun sh reading => (sh.answer reading).2) sh

/-- What is shown in answer to some readings. -/
def shown (sh : Shell) : List Reading → List String
  | [] => []
  | reading :: readings => (sh.answer reading).1.lines ++ shown (sh.answer reading).2 readings

/-- The prompts before each of some readings, and behind the last. -/
def prompts (sh : Shell) (readings : List Reading) : List String :=
  readings.inits.map fun before => (sh.after before).currentPrompt

/-- The line is read, and asks to leave. -/
def Departs (sh : Shell) (line : String) : Prop :=
  (sh.lexLine line).1.isOk ∧ sh.session.pending = [] ∧ Leaves line

/-- The readings that end a conversation, and how they end it. -/
inductive Closes (sh : Shell) : Reading → Except Failure Unit → Prop
  | left {line : String} : sh.Departs line → Closes sh (.line line) (.ok ())
  | ended : Closes sh .endOfInput (.ok ())
  | broken (message : String) : Closes sh (.broken message) (.error ⟨.editor message, none⟩)

/-- None of the readings ends the conversation. -/
def Lasts (sh : Shell) : List Reading → Prop
  | [] => True
  | reading :: readings =>
    (∀ result, ¬sh.Closes reading result) ∧ Lasts (sh.answer reading).2 readings

/-- How a conversation ends with what comes next: there is nothing, it is a reading that ends it, or
the answer to it cannot be written. -/
inductive Ends (sh : Shell) (sink : Sink) : List Reading → Except Failure Unit → Prop
  | silent : Ends sh sink [] (.ok ())
  | closed {reading : Reading} {result : Except Failure Unit} {later : List Reading} :
      sh.Closes reading result → (sink.writeLines (sh.answer reading).1.lines).1 = .ok () →
      Ends sh sink (reading :: later) result
  | full {reading : Reading} {later : List Reading} :
      (sink.writeLines (sh.answer reading).1.lines).1 = .error ⟨.stream sink.message, none⟩ →
      Ends sh sink (reading :: later) (.error ⟨.stream sink.message, none⟩)

theorem answer_line (sh : Shell) (line : String) :
    (sh.answer (.line line)).2 = (sh.lexLine line).2 := by
  rcases h : sh.lexLine line with ⟨f | report, after⟩ <;> simp only [answer, h]

theorem ending_line (sh : Shell) (line : String) :
    (sh.answer (.line line)).1.ending = some result ↔
      ∃ report, (sh.lexLine line).1 = .ok report ∧ report.exit ∧ result = .ok () := by
  rcases h : sh.lexLine line with ⟨f | report, after⟩ <;> simp only [answer, h]
  · exact ⟨nofun, nofun⟩
  · cases hexit : report.exit
    · constructor
      · nofun
      · rintro ⟨_, ⟨⟩, hother, -⟩
        rw [hexit] at hother
        cases hother
    · constructor
      · rintro ⟨⟩
        exact ⟨report, rfl, hexit, rfl⟩
      · rintro ⟨_, -, -, rfl⟩
        rfl

theorem Ready.answer (h : sh.Ready) (reading : Reading) : (sh.answer reading).2.Ready := by
  cases reading with
  | line line =>
    rw [sh.answer_line line]
    exact sh.session.feed_line (Utf8.encode line)
  | interrupt => exact .inl rfl
  | endOfInput | broken message => exact h

theorem Ready.after (h : sh.Ready) (readings : List Reading) : (sh.after readings).Ready := by
  induction readings generalizing sh with
  | nil => exact h
  | cons reading readings ih => exact ih (h.answer reading)

/-- An answer ends the conversation if the reading does, and in the same way. -/
theorem closes_iff (h : sh.Ready) :
    sh.Closes reading result ↔ (sh.answer reading).1.ending = some result := by
  cases reading with
  | line line =>
    rw [ending_line]
    constructor
    · rintro ⟨hok, hasks⟩
      rcases hreport : (sh.lexLine line).1 with f | report
      · rw [hreport] at hok
        cases hok
      · exact ⟨report, rfl, (exit_iff h hreport).mpr hasks, rfl⟩
    · rintro ⟨report, hreport, hexit, rfl⟩
      exact .left ⟨by rw [hreport]; rfl, (exit_iff h hreport).mp hexit⟩
  | interrupt => exact ⟨nofun, nofun⟩
  | endOfInput =>
    constructor
    · rintro ⟨⟩
      rfl
    · intro hending
      cases hending
      exact .ended
  | broken message =>
    constructor
    · rintro ⟨⟩
      rfl
    · intro hending
      cases hending
      exact .broken message

theorem prompts_cons (sh : Shell) (reading : Reading) (readings : List Reading) :
    sh.prompts (reading :: readings) =
      sh.currentPrompt :: (sh.answer reading).2.prompts readings := by
  rw [prompts, List.inits_cons, List.map_cons, List.map_map]
  rfl

namespace Transcript
variable (t : Transcript)

/-- What the answer to a reading leaves behind. -/
def answered (reading : Reading) : Transcript :=
  { { t with prompts := t.prompts.push t.shell.currentPrompt }.remember reading with
    shell := (t.shell.answer reading).2
    sink := (t.sink.writeLines (t.shell.answer reading).1.lines).2 }

theorem remember_eq (reading : Reading) : ∃ history, t.remember reading = { t with history } := by
  cases reading with
  | line line =>
    rw [remember]
    split <;> exact ⟨_, rfl⟩
  | interrupt | endOfInput | broken message => exact ⟨_, rfl⟩

theorem answered_prompts (reading : Reading) :
    (t.answered reading).prompts.toList = t.prompts.toList ++ [t.shell.currentPrompt] := by
  obtain ⟨history, h⟩ :=
    remember_eq { t with prompts := t.prompts.push t.shell.currentPrompt } reading
  rw [answered, h]
  exact Array.toList_push

theorem run_cons (reading : Reading) (readings : List Reading) :
    t.run (reading :: readings) =
      match (t.sink.writeLines (t.shell.answer reading).1.lines).1 with
      | .error f => (.error f, t.answered reading)
      | .ok () =>
        match (t.shell.answer reading).1.ending with
        | some result => (result, t.answered reading)
        | none => (t.answered reading).run readings := by
  obtain ⟨history, h⟩ :=
    remember_eq { t with prompts := t.prompts.push t.shell.currentPrompt } reading
  rw [run, answered, h]
  rcases t.shell.answer reading with ⟨answer, later⟩
  dsimp only
  rcases t.sink.writeLines answer.lines with ⟨f | u, sink⟩ <;> rfl

/-- A reading ends the conversation, or it is answered and the conversation goes on with
the others. -/
theorem run_step (h : t.shell.Ready) (reading : Reading) (readings : List Reading) :
    (∃ result, t.shell.Ends t.sink (reading :: readings) result ∧
      t.run (reading :: readings) = (result, t.answered reading)) ∨
    (∀ result, ¬t.shell.Closes reading result) ∧
      (t.sink.writeLines (t.shell.answer reading).1.lines).1 = .ok () ∧
      t.run (reading :: readings) = (t.answered reading).run readings := by
  rw [run_cons]
  rcases hwrite : (t.sink.writeLines (t.shell.answer reading).1.lines).1 with f | u
  · left
    obtain rfl := Sink.writeLines_eq_error hwrite
    exact ⟨_, .full hwrite, rfl⟩
  · cases hending : (t.shell.answer reading).1.ending with
    | some result =>
      left
      exact ⟨result, .closed ((closes_iff h).mpr hending) hwrite, rfl⟩
    | none =>
      right
      refine ⟨?_, rfl, rfl⟩
      intro result hcloses
      rw [closes_iff h, hending] at hcloses
      cases hcloses

/-- A conversation goes on as long as no reading ends it and every answer can be written. -/
theorem run_ends (h : t.shell.Ready) (readings : List Reading) :
    ∃ heard next, readings = heard ++ next ∧ t.shell.Lasts heard ∧
      (t.sink.writeLines (t.shell.shown heard)).1 = .ok () ∧
      (t.shell.after heard).Ends (t.sink.writeLines (t.shell.shown heard)).2 next
        (t.run readings).1 ∧
      (t.run readings).2.prompts.toList = t.prompts.toList ++ t.shell.prompts heard := by
  induction readings generalizing t with
  | nil => exact ⟨[], [], rfl, trivial, rfl, .silent, Array.toList_push⟩
  | cons reading readings ih =>
    rcases t.run_step h reading readings with ⟨result, hends, hrun⟩ | ⟨hgoes, hwritten, hrun⟩
    · rw [hrun]
      exact ⟨[], reading :: readings, rfl, trivial, rfl, hends, t.answered_prompts reading⟩
    · obtain ⟨heard, next, hsplit, hlasts, hshown, hends, hprompts⟩ :=
        ih (t.answered reading) (h.answer reading)
      have hwrites : t.sink.writeLines (t.shell.shown (reading :: heard)) =
          (t.answered reading).sink.writeLines ((t.answered reading).shell.shown heard) := by
        rw [shown, Sink.writeLines_append hwritten]
        rfl
      refine ⟨reading :: heard, next, by rw [hsplit, List.cons_append], ⟨hgoes, hlasts⟩, ?_, ?_, ?_⟩
      · rwa [hwrites]
      · rw [hwrites, hrun]
        exact hends
      · rw [hrun, hprompts, answered_prompts, prompts_cons, List.append_assoc]
        rfl

end Transcript

theorem Ready.currentPrompt (h : sh.Ready) :
    sh.session.pending = [] ∧ sh.currentPrompt = sh.prompt ∨
      sh.NameOpen ∧ sh.currentPrompt = sh.continuation := by
  rcases h with hnone | hopen
  · left
    rw [Shell.currentPrompt, Session.hasPending, hnone]
    exact ⟨rfl, rfl⟩
  · right
    obtain ⟨body, hbody⟩ := List.head?_eq_some_iff.mp hopen.1
    rw [Shell.currentPrompt, Session.hasPending, hbody]
    exact ⟨hopen, rfl⟩

theorem answer_prompts (sh : Shell) (reading : Reading) :
    (sh.answer reading).2.prompt = sh.prompt ∧
      (sh.answer reading).2.continuation = sh.continuation := by
  cases reading with
  | line line =>
    rw [answer_line]
    exact ⟨rfl, rfl⟩
  | interrupt | endOfInput | broken message => exact ⟨rfl, rfl⟩

theorem after_prompts (sh : Shell) (readings : List Reading) :
    (sh.after readings).prompt = sh.prompt ∧
      (sh.after readings).continuation = sh.continuation := by
  induction readings generalizing sh with
  | nil => exact ⟨rfl, rfl⟩
  | cons reading readings ih =>
    obtain ⟨hprompt, hcontinuation⟩ := sh.answer_prompts reading
    obtain ⟨hlater, hlast⟩ := ih (sh.answer reading).2
    exact ⟨hlater.trans hprompt, hlast.trans hcontinuation⟩

/-- The greeting, and what it leaves of the sink. -/
def greet (sh : Shell) (sink : Sink) : Except Failure Unit × Sink :=
  sink.writeLines (if sh.banner then bannerLines else [])

theorem run_eq (sh : Shell) (readings : List Reading) (sink : Sink) :
    sh.run readings sink =
      match (sh.greet sink).1 with
      | .error f => (.error f, { shell := sh, sink := (sh.greet sink).2 })
      | .ok () => Transcript.run { shell := sh, sink := (sh.greet sink).2 } readings := by
  rw [run, greet]
  rcases sink.writeLines (if sh.banner then bannerLines else []) with ⟨f | u, t⟩ <;> rfl

section
variable {name? : Bytes → Option Name} {config : Session.Config}

theorem ready_of_start (h : Session.start name? config = .ok sh.session) : sh.Ready :=
  .inl (Session.start_eq_ok h).2

/-- Whatever has been read, nothing waits at the next prompt or an open name does, and the
prompt shows which. A line that is taken asks to leave by its text alone, and only where nothing
waits. The conversation ends with the first line that does, if the input does not end before and
nothing fails. -/
theorem run_of_start (hstart : Session.start name? config = .ok sh.session)
    (readings : List Reading) (sink : Sink) :
    (∀ heard,
      let now := sh.after heard
      (now.session.pending = [] ∧ now.currentPrompt = sh.prompt ∨
        now.NameOpen ∧ now.currentPrompt = sh.continuation) ∧
      ∀ line report, (now.lexLine line).1 = .ok report →
        (report.exit ↔ now.session.pending = [] ∧ Leaves line)) ∧
    let result := (sh.run readings sink).1
    let prompts := (sh.run readings sink).2.prompts.toList
    ((sh.greet sink).1 = .error ⟨.stream sink.message, none⟩ ∧
      result = .error ⟨.stream sink.message, none⟩ ∧ prompts = []) ∨
    (sh.greet sink).1 = .ok () ∧ ∃ heard next, readings = heard ++ next ∧ sh.Lasts heard ∧
      ((sh.greet sink).2.writeLines (sh.shown heard)).1 = .ok () ∧
      (sh.after heard).Ends ((sh.greet sink).2.writeLines (sh.shown heard)).2 next result ∧
      prompts = sh.prompts heard := by
  have h : sh.Ready := ready_of_start hstart
  constructor
  · intro heard now
    have hnow : now.Ready := h.after heard
    obtain ⟨hprompt, hcontinuation⟩ : now.prompt = sh.prompt ∧ now.continuation = sh.continuation :=
      sh.after_prompts heard
    rw [← hprompt, ← hcontinuation]
    exact ⟨hnow.currentPrompt, fun line report hreport => exit_iff hnow hreport⟩
  · intro result prompts
    have hrun := sh.run_eq readings sink
    rcases hgreeted : (sh.greet sink).1 with f | u
    · left
      obtain rfl := Sink.writeLines_eq_error hgreeted
      rw [hgreeted] at hrun
      exact ⟨rfl, congrArg (·.1) hrun, congrArg (·.2.prompts.toList) hrun⟩
    · right
      have hgreet : sh.run readings sink =
          Transcript.run { shell := sh, sink := (sh.greet sink).2 } readings := by
        rw [hrun, hgreeted]
      obtain ⟨heard, next, hsplit, hlasts, hshown, hends, hprompts⟩ :=
        Transcript.run_ends { shell := sh, sink := (sh.greet sink).2 } h readings
      rw [← hgreet] at hends hprompts
      exact ⟨rfl, heard, next, hsplit, hlasts, hshown, hends, hprompts⟩

/-- A name over two lines, where EXIT is part of the name, and then a line that asks to leave. -/
theorem run_of_start_open_name :
    let first : List Reading := [.line "say \"two", .line "EXIT\""]
    let last : List Reading := [.line " exit)", .line "LOOK"]
    ∃ s, Session.start (fun _ => none) {} = .ok s ∧
      let sh : Shell := { session := s, banner := false }
      let named := sh.after [.line "say \"two"]
      let closed := sh.after first
      named.NameOpen ∧ (∃ report, (named.lexLine "EXIT\"").1 = .ok report ∧ ¬report.exit) ∧
        (∃ report, (closed.lexLine " exit)").1 = .ok report ∧ report.exit) ∧
        (sh.run (first ++ last) {}).2.prompts.toList = ["cards> ", "  ...> ", "cards> "] ∧
        ∃ sink, closed.Ends sink last (.ok ()) := by
  intro first last
  obtain ⟨s, hstart⟩ : ∃ s, Session.start (fun _ => none) {} = .ok s := ⟨_, rfl⟩
  refine ⟨s, hstart, ?_⟩
  intro sh named closed
  have hwaits : named.session.pending ≠ [] := by
    cases hstart
    decide +kernel
  have hclosed : closed.session.pending = [] := by
    cases hstart
    decide +kernel
  have hinside : (named.lexLine "EXIT\"").1.isOk := by
    cases hstart
    decide +kernel
  have hbehind : (closed.lexLine " exit)").1.isOk := by
    cases hstart
    decide +kernel
  have hprompts :
      (sh.run (first ++ last) {}).2.prompts.toList = ["cards> ", "  ...> ", "cards> "] := by
    cases hstart
    decide +kernel
  have hresult : (sh.run (first ++ last) {}).1 = .ok () := by
    cases hstart
    decide +kernel
  have hleaves : Leaves " exit)" := by
    refine ⟨['e', 'x', 'i', 't'], [')'], by decide, .inl (by decide), ?_⟩
    rintro c ⟨⟩
    decide
  obtain ⟨hbefore, hrun⟩ := @run_of_start sh _ _ hstart (first ++ last) {}
  obtain ⟨hprompt, hinsideExit⟩ := hbefore [.line "say \"two"]
  obtain ⟨-, hbehindExit⟩ := hbefore first
  refine ⟨?_, ?_, ?_, hprompts, ?_⟩
  · exact hprompt.elim (fun hnone => absurd hnone.1 hwaits) And.left
  · cases hreport : (named.lexLine "EXIT\"").1 with
    | error f => rw [hreport] at hinside; cases hinside
    | ok report =>
      refine ⟨report, rfl, ?_⟩
      rw [hinsideExit _ report hreport]
      exact fun hasks => hwaits hasks.1
  · cases hreport : (closed.lexLine " exit)").1 with
    | error f => rw [hreport] at hbehind; cases hbehind
    | ok report => exact ⟨report, rfl, (hbehindExit _ report hreport).mpr ⟨hclosed, hleaves⟩⟩
  · rcases hrun with ⟨hfull, -⟩ | ⟨-, heard, next, hsplit, -, -, hends, hshown⟩
    · cases hfull
    · rw [hprompts] at hshown
      have hlength : first.length = heard.length := by
        have hcount := congrArg List.length hshown
        rw [Shell.prompts, List.length_map, List.length_inits] at hcount
        exact Nat.succ.inj hcount
      obtain ⟨rfl, rfl⟩ := List.append_inj hsplit hlength
      rw [hresult] at hends
      exact ⟨_, hends⟩

end

end Shell
end TableTalk
