import TableTalk.Proofs.Registry.Merging
import TableTalk.Proofs.Shell.Truncation
import TableTalk.Shell.Terminal

/-! The program with its input piped in. It shows what a run of the shell leaves behind: each prompt
of the transcript, and behind it what the sink takes until the next one. -/
namespace TableTalk
open Shell (Transcript)

theorem Terminal.unlines_cons (line : String) (lines : List String) :
    unlines (line :: lines) = line ++ "\n" ++ unlines lines := String.join_cons

theorem Sink.bytes_writeLines_of_open {s : Sink} (h : s.room = none) (lines : List String) :
    (s.writeLines lines).2.bytes = s.bytes ++ Utf8.encode (Terminal.unlines lines) := by
  induction lines generalizing s with
  | nil => exact (List.append_nil _).symm
  | cons line lines ih =>
    obtain ⟨hok, hopen⟩ := write_of_open h (Utf8.encode (line ++ "\n"))
    have hbytes := s.write_bytes (Utf8.encode (line ++ "\n"))
    rw [h, Option.elim_none] at hbytes
    rcases hline : s.write (Utf8.encode (line ++ "\n")) with ⟨f | u, t⟩ <;>
      rw [hline] at hok hopen hbytes
    · cases hok
    · simp only [writeLines, hline]
      rw [ih hopen, hbytes, Terminal.unlines_cons, Utf8.encode_append (line ++ "\n"),
        List.append_assoc]

namespace Terminal
variable {t : Transcript} {r : Reading} {rs : List Reading} {prompts answers : List String}

/-- What the lines come to, up to the first that breaks a contract. -/
def readings : List Bytes → List Reading × Option Breach
  | [] => ([], none)
  | line :: lines =>
    match reading line with
    | .error b => ([], some b)
    | .ok r => (r :: (readings lines).1, (readings lines).2)

/-- Each prompt with the answer behind it. -/
def weave (prompts answers : List String) : String :=
  String.join (List.zipWith (· ++ ·) prompts answers)

theorem weave_cons (prompt answer : String) (prompts answers : List String) :
    weave (prompt :: prompts) (answer :: answers) = prompt ++ answer ++ weave prompts answers :=
  String.join_cons

theorem weave_singleton (prompt answer : String) : weave [prompt] [answer] = prompt ++ answer := by
  rw [weave_cons, weave, List.zipWith_nil_left, String.join_nil, String.append_empty]

/-- How the program ends behind its output: as the run does, or at a breach. -/
def conclude (shown : String) (result : Except Failure Unit) : Option Breach → Exit
  | none => exit shown result
  | some b => abort shown b

/-- The prompts and answers of a run: so many answers are what the sink takes of so
many readings. -/
structure Woven (t : Transcript) (rs : List Reading) (prompts answers : List String) : Prop where
  prompts_eq : (t.run rs).2.prompts.toList = t.prompts.toList ++ prompts
  length_eq : answers.length = prompts.length
  bytes_eq : ∀ k, (t.run (rs.take k)).2.sink.bytes =
    t.sink.bytes ++ Utf8.encode (String.join (answers.take k))

theorem woven_nil (t : Transcript) : Woven t [] [t.shell.currentPrompt] [""] where
  prompts_eq := Array.toList_push
  length_eq := rfl
  bytes_eq k := by
    have hnone : String.join ([""].take k) = "" := by cases k <;> simp
    rw [List.take_nil, hnone]
    exact (List.append_nil _).symm

theorem run_cons_of_open (h : t.sink.room = none) (r : Reading) (rs : List Reading) :
    t.run (r :: rs) =
      match (t.shell.answer r).1.ending with
      | some result => (result, t.answered r)
      | none => (t.answered r).run rs := by
  have hok := (Sink.writeLines_of_open h (t.shell.answer r).1.lines).1
  cases hending : (t.shell.answer r).1.ending <;> simp only [Transcript.run_cons, hok, hending]

theorem bytes_answered (h : t.sink.room = none) (r : Reading) :
    (t.answered r).sink.bytes =
      t.sink.bytes ++ Utf8.encode (unlines (t.shell.answer r).1.lines) :=
  Sink.bytes_writeLines_of_open h _

/-- The reading ends the run. -/
theorem woven_ending (hopen : t.sink.room = none) {result : Except Failure Unit}
    (h : (t.shell.answer r).1.ending = some result) (rs : List Reading) :
    Woven t (r :: rs) [t.shell.currentPrompt] [unlines (t.shell.answer r).1.lines] where
  prompts_eq := by
    rw [run_cons_of_open hopen, h]
    exact t.answered_prompts r
  length_eq := rfl
  bytes_eq k := by
    cases k with
    | zero => exact (List.append_nil _).symm
    | succ k =>
      rw [List.take_succ_cons, run_cons_of_open hopen, h, List.take_succ_cons, List.take_nil,
        String.join_cons, String.join_nil, String.append_empty]
      exact bytes_answered hopen r

/-- The run goes on behind the reading. -/
theorem Woven.cons (hopen : t.sink.room = none) (h : (t.shell.answer r).1.ending = none)
    (hrest : Woven (t.answered r) rs prompts answers) :
    Woven t (r :: rs) (t.shell.currentPrompt :: prompts)
      (unlines (t.shell.answer r).1.lines :: answers) where
  prompts_eq := by
    rw [run_cons_of_open hopen, h]
    rw [hrest.prompts_eq, t.answered_prompts, List.append_assoc, List.singleton_append]
  length_eq := congrArg Nat.succ hrest.length_eq
  bytes_eq k := by
    cases k with
    | zero => exact (List.append_nil _).symm
    | succ k =>
      rw [List.take_succ_cons, run_cons_of_open hopen, h, List.take_succ_cons, String.join_cons,
        Utf8.encode_append, ← List.append_assoc, ← bytes_answered hopen r]
      exact hrest.bytes_eq k

theorem turn_of_error {line : Bytes} {b : Breach} (h : reading line = .error b) (sh : Shell) :
    turn sh line = .error (abort "" b) := by
  rw [turn, h]

theorem turn_of_ok {line : Bytes} (h : reading line = .ok r) (sh : Shell) :
    turn sh line =
      match (sh.answer r).1.ending with
      | some result => .error (exit (unlines (sh.answer r).1.lines) result)
      | none => .ok (unlines (sh.answer r).1.lines, (sh.answer r).2) := by
  cases hending : (sh.answer r).1.ending <;> simp only [turn, h, hending]

/-- Taking turns is a run of the shell on what the lines come to. A line that breaks a contract ends
the program, unless the run ends before. -/
theorem converse_eq_run (hopen : t.sink.room = none) (shown : String) (lines : List Bytes) :
    let heard := readings lines
    ∃ prompts answers, Woven t heard.1 prompts answers ∧
      converse t.shell shown lines =
        conclude (shown ++ weave prompts answers) (t.run heard.1).1
          (if heard.1.length < prompts.length then heard.2 else none) := by
  induction lines generalizing t shown with
  | nil =>
    refine ⟨_, _, woven_nil t, ?_⟩
    rw [weave_singleton, String.append_empty]
    rfl
  | cons line lines ih =>
    rw [converse, readings]
    cases hreading : reading line with
    | error b =>
      refine ⟨_, _, woven_nil t, ?_⟩
      rw [turn_of_error hreading, weave_singleton, ← String.append_assoc]
      rfl
    | ok r =>
      rw [turn_of_ok hreading]
      cases hending : (t.shell.answer r).1.ending with
      | some result =>
        refine ⟨_, _, woven_ending hopen hending _, ?_⟩
        have hover : ¬(r :: (readings lines).1).length < [t.shell.currentPrompt].length := by simp
        simp only [if_neg hover, run_cons_of_open hopen, hending, weave_singleton]
        rw [← String.append_assoc]
        cases result <;> rfl
      | none =>
        have hstill : (t.answered r).sink.room = none := (Sink.writeLines_of_open hopen _).2
        obtain ⟨prompts, answers, hwoven, hconverse⟩ := ih hstill
          (shown ++ t.shell.currentPrompt ++ unlines (t.shell.answer r).1.lines)
        refine ⟨_, _, hwoven.cons hopen hending, ?_⟩
        simp only [run_cons_of_open hopen, hending, weave_cons, List.length_cons,
          Nat.add_lt_add_iff_right]
        rw [← String.append_assoc, ← String.append_assoc]
        exact hconverse

/-- A program that heard so much shows the greeting and then, woven, the prompts of the shell's run
and what its sink takes between them. It ends as that run does, unless a line that breaks a contract
comes first. -/
def Shows (sh : Shell) (heard : List Reading × Option Breach) (e : Exit) : Prop :=
  let run := sh.run heard.1 {}
  ∃ answers : List String, answers.length = run.2.prompts.size ∧
    (∀ k, (sh.run (heard.1.take k) {}).2.sink.bytes =
      Utf8.encode (unlines Shell.bannerLines ++ String.join (answers.take k))) ∧
    e = conclude (unlines Shell.bannerLines ++ weave run.2.prompts.toList answers) run.1
      (if heard.1.length < run.2.prompts.size then heard.2 else none)

theorem shows_converse {sh : Shell} (hbanner : sh.banner) (lines : List Bytes) :
    Shows sh (readings lines) (converse sh (unlines Shell.bannerLines) lines) := by
  obtain ⟨hok, hopen⟩ := Sink.writeLines_of_open (s := {}) rfl Shell.bannerLines
  have hgreeted := Sink.bytes_writeLines_of_open (s := {}) rfl Shell.bannerLines
  let t : Transcript := { shell := sh, sink := (({} : Sink).writeLines Shell.bannerLines).2 }
  have hrun (rs : List Reading) : sh.run rs {} = t.run rs := by
    rw [sh.run_eq, Shell.greet, if_pos hbanner, hok]
  obtain ⟨prompts, answers, hwoven, hconverse⟩ :=
    converse_eq_run (t := t) hopen (unlines Shell.bannerLines) lines
  have hprompts : (t.run (readings lines).1).2.prompts.toList = prompts := hwoven.prompts_eq
  have hsize : (t.run (readings lines).1).2.prompts.size = prompts.length := by
    rw [← hprompts, Array.length_toList]
  rw [Shows, hrun, hprompts, hsize]
  refine ⟨answers, hwoven.length_eq, fun k => ?_, hconverse⟩
  rw [hrun, hwoven.bytes_eq, Utf8.encode_append, hgreeted]
  rfl

/-- For everything that is piped in, the program shows the shell's run over the sample names. -/
theorem shows_session (input : Bytes) :
    ∃ names, Registry.sample (.seeded 0) = .ok names ∧
      Shows { session := .fresh names.find? } (readings (lines input)) (session input) := by
  obtain ⟨names, hnames⟩ := Registry.exists_sample (.seeded 0)
  refine ⟨names, hnames, ?_⟩
  rw [session, hnames]
  exact shows_converse rfl (lines input)

end Terminal
end TableTalk
