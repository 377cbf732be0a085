import AlertConsole.Proofs.CommandLine.Port
import AlertConsole.Run
import Mathlib.Data.List.Basic
set_option autoImplicit false

/-!
# Which arguments are accepted

The arguments are accepted if nothing is left of them but one port or none when the first `--` is
taken out.  `foldlM_take_eq_ok_iff` says that for the arguments that are read so far, and
`read_eq_ok_iff_givesPort` for the whole command line: which port they give, and how every other
command line is refused.
-/

namespace AlertConsole.CommandLine

/-! ## What an argument looks like -/

/-- The argument that ends the options. -/
def separator : String := "--"

theorem argument_of_eq_separator_iff {text : String} :
    Argument.of text = .separator ↔ text = separator := by
  rw [← String.toList_inj, Argument.of]
  show _ ↔ text.toList = ['-', '-']
  split <;> simp_all

/-- Anything is plain but a minus with something behind it. -/
theorem argument_of_eq_plain_iff {text : String} :
    Argument.of text = .plain ↔ ∀ c s, text.toList ≠ '-' :: c :: s := by
  rw [Argument.of]
  split <;> simp_all

namespace Progress

/-! ## One argument -/

theorem takePort_eq_ok_iff {p q : Progress} {text : String} :
    p.takePort text = .ok q ↔ p.port = none ∧ q = { p with port := some text } := by
  rw [takePort]
  cases p.port with
  | none => simp [eq_comm]
  | some v => simp

/-- No help is progress. -/
theorem help_ne_ok (p q : Progress) : p.help ≠ .ok q := by
  rw [help]
  split <;> exact fun h => nomatch h

theorem takeLong_ne_ok (p q : Progress) (name : List Char) (value : Option (List Char)) :
    p.takeLong name value ≠ .ok q := by
  unfold takeLong
  dsimp only
  split
  · split
    · exact p.help_ne_ok q
    · exact fun h => nomatch h
  · exact fun h => nomatch h

/-- An argument is accepted as the separator or as the port. -/
theorem take_eq_ok_iff {p q : Progress} {text : String} :
    p.take text = .ok q ↔
      p.literal = false ∧ text = separator ∧ q = { p with literal := true } ∨
      (p.literal = true ∨ Argument.of text = .plain) ∧ p.port = none ∧
        q = { p with port := some text } := by
  obtain ⟨port, literal⟩ := p
  rw [take, ← argument_of_eq_separator_iff]
  cases literal with
  | true => simp [takePort_eq_ok_iff]
  | false =>
    cases Argument.of text with
    | separator => simp [eq_comm]
    | long name value => simp [takeLong_ne_ok]
    | short c =>
      by_cases hc : c = 'h'
      · simp [hc, help_ne_ok]
      · simp [hc]
    | plain => simp [takePort_eq_ok_iff]

/-! ## All arguments -/

/-- What is found in arguments is what is left of them without the first separator, behind what was
found before; it is one port at most.  In front of the separator every argument has to be plain. -/
theorem foldlM_take_eq_ok_iff {p q : Progress} {args : List String} :
    args.foldlM take p = .ok q ↔
      q.literal = (p.literal || args.contains separator) ∧
      q.port.toList = p.port.toList ++ (if p.literal then args else args.erase separator) ∧
      (p.literal = false → ∀ s ∈ args.takeWhile (· ≠ separator), Argument.of s = .plain) := by
  induction args generalizing p with
  | nil =>
    obtain ⟨port, literal⟩ := p
    obtain ⟨port', literal'⟩ := q
    have hport : port'.toList = port.toList ↔ port = port' := by
      cases port <;> cases port' <;> simp [eq_comm]
    simp [pure, Except.pure, hport, eq_comm, and_comm]
  | cons s args ih =>
    -- two ports are never found
    have htwo {v : String} {found : List String} : q.port.toList ≠ v :: s :: found := by
      cases q.port <;> simp
    obtain ⟨port, literal⟩ := p
    have hbind : (s :: args).foldlM take ⟨port, literal⟩ = .ok q ↔
        ∃ p, take ⟨port, literal⟩ s = .ok p ∧ args.foldlM take p = .ok q := by
      rw [List.foldlM_cons]
      cases take ⟨port, literal⟩ s <;> simp [bind, Except.bind]
    rw [hbind]
    simp only [take_eq_ok_iff, ih]
    cases literal with
    | true =>
      cases port with
      | none => simp
      | some v => simp [htwo]
    | false =>
      by_cases hs : s = separator
      · have hplain : Argument.of s ≠ .plain := by
          rw [argument_of_eq_separator_iff.mpr hs]
          exact fun h => nomatch h
        simp [hs, hs ▸ hplain]
      · have hs' : separator ≠ s := Ne.symm hs
        cases port with
        | none =>
          simp [hs, hs', List.erase_cons_tail]
          tauto
        | some v => simp [hs, hs', List.erase_cons_tail, htwo]

end Progress

/-! ## The whole command line -/

/-- The form of arguments that give a port.  Without the first `--` they are no more than one, and a
number with a minus in front has to stand behind `--`. -/
inductive GivesPort : List String → UInt16 → Prop where
  | standard {args : List String} : args.erase separator = [] → GivesPort args 8888
  | number {args : List String} {s : String} {sign ds : List Char} {port : UInt16} :
      args.erase separator = [s] → s.toList = sign ++ ds → sign = [] ∨ sign = ['+'] →
      Writes ds port.toNat → GivesPort args port
  | minusZero {s : String} {zeros : List Char} :
      s.toList = '-' :: zeros → zeros ≠ [] → (∀ d ∈ zeros, d = '0') →
      GivesPort [separator, s] 0

/-- What stands in front of the first separator is left when that is taken out. -/
theorem mem_erase_of_mem_takeWhile {args : List String} {s : String}
    (hs : s ∈ args.takeWhile (· ≠ separator)) : s ∈ args.erase separator := by
  have hne : s ≠ separator := by simpa using List.all_eq_true.mp List.all_takeWhile s hs
  exact (List.mem_erase_of_ne hne).mpr ((List.takeWhile_sublist _).subset hs)

/-- One argument is left only of itself and a separator on one of its sides. -/
theorem eq_of_erase_eq_singleton {args : List String} {s : String}
    (h : args.erase separator = [s]) :
    args = [s] ∨ args = [s, separator] ∨ args = [separator, s] := by
  by_cases hmem : separator ∈ args
  · obtain ⟨front, back, -, rfl, herase⟩ := List.exists_erase_eq hmem
    rw [herase, List.append_eq_singleton_iff] at h
    obtain ⟨rfl, rfl⟩ | ⟨rfl, rfl⟩ := h
    · exact .inr (.inr rfl)
    · exact .inr (.inl rfl)
  · rw [List.erase_of_not_mem hmem] at h
    exact .inl h

/-- Arguments are accepted if each of them in front of the first separator is plain and nothing is
left without it, or one port. -/
theorem port_eq_ok_iff {args : List String} {n : UInt16} :
    port args = .ok n ↔
      (∀ s ∈ args.takeWhile (· ≠ separator), Argument.of s = .plain) ∧
      (args.erase separator = [] ∧ n = 8888 ∨
        ∃ s, args.erase separator = [s] ∧ portOf s = .ok n) := by
  have hport : port args = .ok n ↔
      ∃ p, args.foldlM Progress.take ⟨none, false⟩ = .ok p ∧ p.finish = .ok n := by
    rw [port]
    cases args.foldlM Progress.take ⟨none, false⟩ <;> simp
  have hfinish (p : Progress) : p.finish = .ok n ↔
      p.port.toList = [] ∧ n = 8888 ∨ ∃ s, p.port.toList = [s] ∧ portOf s = .ok n := by
    rw [Progress.finish]
    cases p.port with
    | none => simp [Listener.defaultPort, eq_comm]
    | some s => cases hs : portOf s <;> simp [Except.mapError, hs]
  simp only [hport, hfinish, Progress.foldlM_take_eq_ok_iff, Option.toList_none, List.nil_append,
    Bool.false_or, Bool.false_eq_true, if_false, forall_const]
  constructor
  · rintro ⟨p, ⟨-, hleft, hplain⟩, hn⟩
    exact ⟨hplain, hleft ▸ hn⟩
  · rintro ⟨hplain, hn⟩
    obtain ⟨v, hv⟩ : ∃ v : Option String, v.toList = args.erase separator := by
      obtain ⟨hleft, -⟩ | ⟨s, hleft, -⟩ := hn
      · exact ⟨none, hleft.symm⟩
      · exact ⟨some s, hleft.symm⟩
    exact ⟨⟨v, args.contains separator⟩, ⟨rfl, hv, hplain⟩, hv ▸ hn⟩

/-- A number with a minus in front is taken for an option if it does not stand behind `--`. -/
theorem argument_of_ne_plain {s : String} {ds : List Char} (hs : s.toList = '-' :: ds)
    (hne : ds ≠ []) : Argument.of s ≠ .plain := by
  obtain ⟨d, ds, rfl⟩ := List.exists_cons_of_ne_nil hne
  intro hplain
  exact argument_of_eq_plain_iff.mp hplain d ds hs

/-- A number without a minus is no option. -/
theorem argument_of_eq_plain {s : String} {sign ds : List Char} {n : Nat}
    (hs : s.toList = sign ++ ds) (hsign : sign = [] ∨ sign = ['+']) (hds : Writes ds n) :
    Argument.of s = .plain := by
  rw [argument_of_eq_plain_iff, hs]
  intro c rest h
  obtain rfl | rfl := hsign
  · rw [List.nil_append] at h
    have hdigit := hds.digits '-' (h ▸ List.mem_cons_self)
    contradiction
  · rw [List.singleton_append, List.cons.injEq] at h
    exact absurd h.1 (by decide)

/-- What is taken for an option is left only if it stands behind `--`. -/
theorem eq_of_option_left {args : List String} {s : String} (hleft : args.erase separator = [s])
    (hplain : ∀ v ∈ args.takeWhile (· ≠ separator), Argument.of v = .plain)
    (hseparator : s ≠ separator) (hoption : Argument.of s ≠ .plain) : args = [separator, s] := by
  obtain rfl | rfl | h := eq_of_erase_eq_singleton hleft
  · exact absurd (hplain s (by simp [hseparator])) hoption
  · exact absurd (hplain s (by simp [hseparator])) hoption
  · exact h

/-- Arguments that give a port are accepted with it. -/
theorem GivesPort.port_eq_ok {args : List String} {n : UInt16} (h : GivesPort args n) :
    port args = .ok n := by
  rw [port_eq_ok_iff]
  cases h with
  | standard hleft =>
    refine ⟨fun s hs => ?_, .inl ⟨hleft, rfl⟩⟩
    have hmem := mem_erase_of_mem_takeWhile hs
    rw [hleft] at hmem
    contradiction
  | @number _ s sign ds _ hleft hs hsign hds =>
    refine ⟨fun v hv => ?_, .inr ⟨s, hleft, portOf_eq_ok_iff.mpr ?_⟩⟩
    · have hmem := mem_erase_of_mem_takeWhile hv
      rw [hleft, List.mem_singleton] at hmem
      obtain rfl := hmem
      exact argument_of_eq_plain hs hsign hds
    · rw [hs]
      obtain rfl | rfl := hsign
      · exact .plain hds
      · exact .plus hds
  | @minusZero s zeros hs hne hzeros =>
    refine ⟨fun v hv => ?_, .inr ⟨s, List.erase_cons_head _ _, portOf_eq_ok_iff.mpr ?_⟩⟩
    · rw [List.takeWhile_cons_of_neg (by simp)] at hv
      contradiction
    · rw [hs]
      exact .minus (writes_zero_iff.mpr ⟨hne, hzeros⟩)

/-- The form of the arguments is what decides on them. -/
theorem givesPort_iff {args : List String} {n : UInt16} :
    GivesPort args n ↔ port args = .ok n := by
  refine ⟨fun h => h.port_eq_ok, fun hport => ?_⟩
  obtain ⟨hplain, ⟨hleft, rfl⟩ | ⟨s, hleft, hn⟩⟩ := port_eq_ok_iff.mp hport
  · exact .standard hleft
  have hwrites := portOf_eq_ok_iff.mp hn
  generalize hs : s.toList = cs at hwrites
  generalize hi : (n.toNat : Int) = i at hwrites
  cases hwrites with
  | @plain _ m h =>
    obtain rfl := Int.ofNat_inj.mp hi
    have hsign := hs.trans (List.nil_append _).symm
    exact .number hleft hsign (.inl rfl) h
  | @plus ds m h =>
    obtain rfl := Int.ofNat_inj.mp hi
    have hsign : s.toList = ['+'] ++ ds := hs
    exact .number hleft hsign (.inr rfl) h
  | @minus ds m h =>
    -- nothing but zero is its own negative
    obtain rfl : m = 0 := by omega
    obtain rfl : n = 0 := UInt16.toNat_inj.mp (by simpa using hi)
    obtain ⟨hne, hzeros⟩ := writes_zero_iff.mp h
    have hseparator : s ≠ separator := by
      rintro rfl
      obtain rfl : ['-'] = ds := (List.cons.inj hs).2
      have hdigit := h.isDigit_head
      contradiction
    obtain rfl := eq_of_option_left hleft hplain hseparator (argument_of_ne_plain hs hne)
    exact .minusZero hs hne hzeros

theorem read_eq_ok_iff {argv : List String} {n : UInt16} :
    read argv = .ok n ↔ GivesPort argv.tail n := by
  rw [givesPort_iff]
  match argv with
  | [] => simp [read, port, Progress.finish, pure, Except.pure]
  | path :: args => rw [read, List.tail_cons]; cases port args <;> simp [Except.mapError]

/-- What a refused run leaves behind. -/
theorem transcript_of_refused {path : String} {args : List String} {refusal : Refusal}
    {message : String} (machine : Run.Machine)
    (h : read (path :: args) = .error (refusal, message)) :
    Run.transcript machine path args =
      if refusal = .help then ⟨0, message, []⟩ else ⟨2, "", Run.linesOf message⟩ := by
  rw [Run.transcript, h]
  cases refusal <;> rfl

/-- A command line is accepted with exactly the port that its arguments give.  Every other one is
refused, and its run prints the refusal and nothing else: as output and as a success if help was
asked for, and otherwise as an error with exit code 2. -/
theorem read_eq_ok_iff_givesPort (argv : List String) :
    (∀ n, read argv = .ok n ↔ GivesPort argv.tail n) ∧
    ((∀ n, ¬ GivesPort argv.tail n) →
      ∃ refusal message, read argv = .error (refusal, message) ∧
        (refusal = .help ↔ refusal.isError = false) ∧
        refusal.exitCode = (if refusal = .help then 0 else 2) ∧
        ∀ machine path args, argv = path :: args →
          Run.transcript machine path args =
            if refusal = .help then ⟨0, message, []⟩ else ⟨2, "", Run.linesOf message⟩) := by
  refine ⟨fun n => read_eq_ok_iff, fun hnone => ?_⟩
  cases hread : read argv with
  | ok n => exact absurd (read_eq_ok_iff.mp hread) (hnone n)
  | error fault =>
    obtain ⟨refusal, message⟩ := fault
    refine ⟨refusal, message, rfl, ?_, ?_, ?_⟩
    · cases refusal <;> simp [Refusal.isError, Refusal.exitCode]
    · cases refusal <;> rfl
    · rintro machine path args rfl
      exact transcript_of_refused machine hread

example : read ["receiver", "--", "-00"] = .ok 0 := by rfl

end AlertConsole.CommandLine
