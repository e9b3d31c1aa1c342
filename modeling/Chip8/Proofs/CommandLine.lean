import Chip8.CommandLine
import Mathlib.Data.List.Perm.Basic
import Mathlib.Tactic.MkIffOfInductiveProp

/-!
# The grammar of the command line

A command line is understood if and only if it splits into options, each with its value, and one
program. What it then means can be read off these groups, and their order matters only among speeds.

* `Text.Spells`, `readUInt32_eq_some`: the texts that denote a 32 bit number;
* **`Arguments.Group`**, `Group.words`: what a command line is made of;
* `Draft.Gains`, `read_words`, `exists_groups_of_read`: what reading gathers from groups, and that it
  succeeds on nothing else;
* **`Arguments.Means`**, `parse_words`: what groups mean;
* **`parse_grammar`**.
-/

namespace Chip8

/-! ## Rates -/

namespace Text

/-- Digits of a number: at least one, and nothing else. -/
structure Digits (cs : List Char) (n : Nat) : Prop where
  nonempty : cs ≠ []
  digits : ∀ c ∈ cs, c.isDigit = true
  value : Nat.ofDigitChars 10 cs 0 = n

/-- **A text that denotes a 32 bit number**: its decimal digits, which one plus sign may precede. -/
def Spells (text : String) (n : UInt32) : Prop :=
  ∃ cs, (text.toList = cs ∨ text.toList = '+' :: cs) ∧ Digits cs n.toNat

variable {cs : List Char} {text : String}

theorem digitValue_eq (c : Char) :
    digitValue c = if c.isDigit then some (c.toNat - '0'.toNat) else none := by
  have hdigit : 48 ≤ c.toNat ∧ c.toNat ≤ 57 ↔ c.isDigit = true := by
    rw [Char.isDigit, Bool.and_eq_true, decide_eq_true_iff, decide_eq_true_iff, ge_iff_le,
      UInt32.le_iff_toNat_le, UInt32.le_iff_toNat_le]
    rfl
  rw [digitValue]
  exact if_congr hdigit rfl rfl

theorem decimalFrom_eq_some {acc n : Nat} : decimalFrom acc cs = some n ↔
    (∀ c ∈ cs, c.isDigit = true) ∧ Nat.ofDigitChars 10 cs acc = n := by
  induction cs generalizing acc with
  | nil => simp [decimalFrom]
  | cons c cs ih =>
    rw [decimalFrom, digitValue_eq, List.forall_mem_cons, Nat.ofDigitChars_cons, Nat.mul_comm acc]
    cases hc : c.isDigit with
    | true => simp [ih]
    | false => simp

theorem decimalValue_eq_some {n : Nat} : decimalValue cs = some n ↔ Digits cs n := by
  cases cs with
  | nil => exact ⟨nofun, fun h => absurd rfl h.nonempty⟩
  | cons c cs =>
    rw [decimalValue, decimalFrom_eq_some]
    · exact ⟨fun h => ⟨nofun, h.1, h.2⟩, fun h => ⟨h.digits, h.value⟩⟩
    · nofun

/-- A plus sign is no digit, so it is the sign or the text denotes nothing. -/
theorem digits_dropPlus {n : Nat} :
    Digits (dropPlus cs) n ↔ ∃ ds, (cs = ds ∨ cs = '+' :: ds) ∧ Digits ds n := by
  constructor
  · intro h
    rw [dropPlus.eq_def] at h
    split at h
    · exact ⟨_, .inr rfl, h⟩
    · exact ⟨_, .inl rfl, h⟩
  · rintro ⟨ds, rfl | rfl, h⟩
    · rw [dropPlus.eq_def]
      split
      · exact absurd (h.digits '+' List.mem_cons_self) (by decide)
      · exact h
    · exact h

/-- **The numbers that are read are those that are denoted.** -/
theorem readUInt32_eq_some {n : UInt32} : readUInt32 text = some n ↔ Spells text n := by
  rw [Spells, ← digits_dropPlus, ← decimalValue_eq_some, readUInt32]
  cases decimalValue (dropPlus text.toList) with
  | none => exact ⟨nofun, nofun⟩
  | some m =>
    dsimp only
    rw [Option.some.injEq]
    constructor
    · intro h
      by_cases hm : m < UInt32.size
      · rw [if_pos hm, Option.some.injEq] at h
        rw [← h, UInt32.toNat_ofNat_of_lt' hm]
      · rw [if_neg hm] at h
        cases h
    · rintro rfl
      rw [if_pos n.toNat_lt, UInt32.ofNat_toNat]

theorem spells_toString (n : UInt32) : Spells (toString n.toNat) n := by
  have htext : (toString n.toNat).toList = Nat.toDigits 10 n.toNat := by
    rw [Nat.toString_eq_ofList_toDigits, String.toList_ofList]
  refine ⟨_, .inl htext, Nat.toDigits_ne_nil, fun c hc => ?_, Nat.ofDigitChars_ten_toDigits⟩
  exact Nat.isDigit_of_mem_toDigits (by decide) (Nat.le_refl 10) hc

end Text

namespace Arguments

/-! ## Groups -/

/-- **A group of a command line**: an option with its value, or a program. -/
inductive Group where
  | strict
  | verbose
  | speed (text : String) (rate : UInt32) (h : Text.Spells text rate)
  | program (path : String) (h : isOption path = false)

namespace Group

/-- How a group is written. -/
def words : Group → List String
  | strict => ["--strict"]
  | verbose => ["--verbose"]
  | speed text _ _ => ["--speed", text]
  | program path _ => [path]

/-- The rate that a group asks for. -/
@[simp]
def rate? : Group → Option UInt32
  | speed _ rate _ => some rate
  | _ => none

/-- The program that a group names. -/
@[simp]
def path? : Group → Option String
  | program path _ => some path
  | _ => none

@[simp]
def isStrict : Group → Bool
  | strict => true
  | _ => false

@[simp]
def isVerbose : Group → Bool
  | verbose => true
  | _ => false

def isSpeed : Group → Bool
  | speed .. => true
  | _ => false

end Group

/-! ## Reading groups -/

namespace Draft

variable {d d' : Draft} {groups : List Group} {args : List String}

theorem read_strict (rest : List String) : d.read ("--strict" :: rest) =
    read { d with config := { d.config with strict := true } } rest := by
  rw [read.eq_def]
  rfl

theorem read_verbose (rest : List String) : d.read ("--verbose" :: rest) =
    read { d with verbose := true } rest := by
  rw [read.eq_def]
  rfl

theorem read_speed {text : String} {rate : UInt32} (h : Text.Spells text rate)
    (rest : List String) : d.read ("--speed" :: text :: rest) =
      read { d with config := { d.config with cyclesPerSecond := rate } } rest := by
  rw [read.eq_def]
  simp only [Text.readUInt32_eq_some.mpr h, if_true]

theorem read_program {path : String} (h : isOption path = false) (rest : List String) :
    d.read (path :: rest) = match d.program with
      | none => read { d with program := some path } rest
      | some _ => .error (.unexpectedArgument path) := by
  have hne (option : String) (hoption : isOption option = true) : path ≠ option := by
    rintro rfl
    rw [h] at hoption
    cases hoption
  rw [read.eq_def]
  cases d.program <;>
    simp only [h, if_neg (hne "--speed" rfl), if_neg (hne "--strict" rfl),
      if_neg (hne "--verbose" rfl), Bool.false_eq_true, if_false]

/-- **What a draft gains from groups**: all their programs, the last speed and the options. -/
@[mk_iff]
structure Gains (d : Draft) (groups : List Group) (d' : Draft) : Prop where
  program : d'.program.toList = d.program.toList ++ groups.filterMap Group.path?
  rate : d'.config.cyclesPerSecond =
    (groups.filterMap Group.rate?).getLast?.getD d.config.cyclesPerSecond
  timers : d'.config.timersPerSecond = d.config.timersPerSecond
  strict : d'.config.strict = (d.config.strict || groups.any Group.isStrict)
  verbose : d'.verbose = (d.verbose || groups.any Group.isVerbose)

theorem gains_nil : d.Gains [] d' ↔ d = d' := by
  constructor
  · rintro ⟨hprogram, hrate, htimers, hstrict, hverbose⟩
    have hpath : d.program = d'.program := by
      simpa using congrArg List.head? hprogram.symm
    have hconfig : d.config = d'.config :=
      Config.ext hrate.symm htimers.symm (hstrict.trans (Bool.or_false _)).symm
    exact Draft.ext hpath hconfig (hverbose.trans (Bool.or_false _)).symm
  · rintro rfl
    simp [gains_iff]

theorem gains_strict : d.Gains (.strict :: groups) d' ↔
    Gains { d with config := { d.config with strict := true } } groups d' := by
  simp [gains_iff, List.filterMap_cons]

theorem gains_verbose : d.Gains (.verbose :: groups) d' ↔
    Gains { d with verbose := true } groups d' := by
  simp [gains_iff, List.filterMap_cons]

theorem gains_speed {text : String} {rate : UInt32} {h : Text.Spells text rate} :
    d.Gains (.speed text rate h :: groups) d' ↔
      Gains { d with config := { d.config with cyclesPerSecond := rate } } groups d' := by
  simp [gains_iff, List.filterMap_cons, List.getLast?_cons]

theorem gains_program {path : String} {h : isOption path = false} :
    d.Gains (.program path h :: groups) d' ↔
      d.program = none ∧ Gains { d with program := some path } groups d' := by
  cases hd : d.program with
  | none => simp [gains_iff, hd, List.filterMap_cons]
  | some first =>
    -- There would be two programs.
    refine ⟨fun hgains => ?_, nofun⟩
    have hprogram := hgains.program
    rw [hd, List.filterMap_cons] at hprogram
    cases hd' : d'.program <;> simp [hd'] at hprogram

/-- **Reading groups** gathers what they are, and fails only at a second program. -/
theorem read_words : d.read (groups.flatMap Group.words) = .ok d' ↔ d.Gains groups d' := by
  induction groups generalizing d with
  | nil => rw [List.flatMap_nil, read.eq_def, gains_nil, Except.ok.injEq]
  | cons g groups ih =>
    rw [List.flatMap_cons]
    cases g with
    | strict => rw [Group.words, List.singleton_append, read_strict, ih, gains_strict]
    | verbose => rw [Group.words, List.singleton_append, read_verbose, ih, gains_verbose]
    | speed text rate h =>
      rw [Group.words, List.cons_append, List.singleton_append, read_speed h, ih, gains_speed]
    | program path h =>
      rw [Group.words, List.singleton_append, read_program h, gains_program]
      cases d.program with
      | none => rw [ih, eq_self, true_and]
      | some first => exact ⟨nofun, nofun⟩

/-- **Nothing else is read**: what is read splits into groups. -/
theorem exists_groups_of_read (h : d.read args = .ok d') :
    ∃ groups : List Group, args = groups.flatMap Group.words := by
  have hcons {words rest : List String} (g : Group) (hwords : words = g.words)
      (hrest : ∃ groups : List Group, rest = groups.flatMap Group.words) :
      ∃ groups : List Group, words ++ rest = groups.flatMap Group.words := by
    obtain ⟨groups, rfl⟩ := hrest
    exact ⟨g :: groups, by rw [List.flatMap_cons, hwords]⟩
  fun_induction Draft.read d args with
  | case1 d => exact ⟨[], rfl⟩
  | case2 d => cases h
  | case3 d value rest hvalue => cases h
  | case4 d value rest rate hvalue ih =>
    exact hcons (.speed value rate (Text.readUInt32_eq_some.mp hvalue)) rfl (ih h)
  | case5 d rest hspeed ih => exact hcons .strict rfl (ih h)
  | case6 d rest hspeed hstrict ih => exact hcons .verbose rfl (ih h)
  | case7 => cases h
  | case8 d path rest hspeed hstrict hverbose hoption hd ih =>
    exact hcons (.program path (by simpa using hoption)) rfl (ih h)
  | case9 => cases h

theorem finish_eq_ok {a : Arguments} : d.finish = .ok a ↔
    a.config.validate = .ok () ∧ d = ⟨some a.program, a.config, a.verbose⟩ := by
  obtain ⟨program, config, verbose⟩ := d
  rw [finish, Draft.mk.injEq]
  cases hvalid : config.validate with
  | error error =>
    refine ⟨nofun, ?_⟩
    rintro ⟨husable, -, rfl, -⟩
    rw [hvalid] at husable
    cases husable
  | ok =>
    cases program with
    | none => exact ⟨nofun, nofun⟩
    | some program =>
      rw [Except.ok.injEq, Arguments.ext_iff, Option.some.injEq]
      refine ⟨fun h => ⟨h.2.1 ▸ hvalid, h⟩, fun h => h.2⟩

end Draft

/-! ## What groups mean -/

variable {a : Arguments} {args : List String} {groups groups' : List Group}

/-- **The arguments that groups mean.** -/
structure Means (groups : List Group) (a : Arguments) : Prop where
  /-- There is one program. -/
  program : groups.filterMap Group.path? = [a.program]
  /-- The last speed counts, and it is not zero. -/
  usable : (groups.filterMap Group.rate?).getLast? ≠ some 0
  rate : a.config.cyclesPerSecond = (groups.filterMap Group.rate?).getLast?.getD 500
  timers : a.config.timersPerSecond = 60
  strict : a.config.strict = groups.any Group.isStrict
  verbose : a.verbose = groups.any Group.isVerbose

theorem parse_eq_ok : parse args = .ok a ↔
    a.config.validate = .ok () ∧ Draft.read {} args = .ok ⟨some a.program, a.config, a.verbose⟩ := by
  rw [parse]
  cases Draft.read {} args with
  | error error => exact ⟨nofun, nofun⟩
  | ok d =>
    rw [Except.ok.injEq]
    exact Draft.finish_eq_ok

/-- **Groups are understood as what they mean.** -/
theorem parse_words : parse (groups.flatMap Group.words) = .ok a ↔ Means groups a := by
  rw [parse_eq_ok, Draft.read_words, Config.validate_eq_ok]
  constructor
  · rintro ⟨⟨hrate, -⟩, hgains⟩
    refine ⟨hgains.program.symm, fun hlast => hrate ?_, hgains.rate, hgains.timers, ?_, ?_⟩
    · rw [hgains.rate, hlast, Option.getD_some]
    · exact hgains.strict.trans (Bool.false_or _)
    · exact hgains.verbose.trans (Bool.false_or _)
  · intro h
    have hrate : a.config.cyclesPerSecond ≠ 0 := by
      rw [h.rate]
      cases hlast : (groups.filterMap Group.rate?).getLast? with
      | none => decide
      | some rate => exact fun hzero => h.usable (hlast.trans (congrArg some hzero))
    have htimers : a.config.timersPerSecond ≠ 0 := by
      rw [h.timers]
      decide
    exact ⟨⟨hrate, htimers⟩, h.program.symm, h.rate, h.timers,
      h.strict.trans (Bool.false_or _).symm, h.verbose.trans (Bool.false_or _).symm⟩

/-- Only speeds ask for a rate. -/
theorem filterMap_filter_isSpeed (groups : List Group) :
    (groups.filter Group.isSpeed).filterMap Group.rate? = groups.filterMap Group.rate? := by
  rw [List.filterMap_filter]
  refine List.filterMap_congr fun g _ => ?_
  cases g <;> rfl

/-- Only the order of the speeds matters. -/
theorem Means.of_perm (h : Means groups a) (hperm : groups.Perm groups')
    (hspeeds : groups.filter Group.isSpeed = groups'.filter Group.isSpeed) : Means groups' a := by
  have hrates : groups'.filterMap Group.rate? = groups.filterMap Group.rate? := by
    rw [← filterMap_filter_isSpeed, ← hspeeds, filterMap_filter_isSpeed]
  have hprogram : [a.program].Perm (groups'.filterMap Group.path?) :=
    h.program ▸ hperm.filterMap Group.path?
  refine ⟨(List.singleton_perm.mp hprogram).symm, hrates ▸ h.usable, hrates ▸ h.rate, h.timers, ?_, ?_⟩
  · rw [h.strict, hperm.any_eq]
  · rw [h.verbose, hperm.any_eq]

/-- **Everything that can be asked for has groups that mean it.** -/
theorem exists_means (hprogram : isOption a.program = false) (hrate : a.config.cyclesPerSecond ≠ 0)
    (htimers : a.config.timersPerSecond = 60) : ∃ groups : List Group, Means groups a := by
  obtain ⟨path, ⟨rate, timers, strict⟩, verbose⟩ := a
  obtain rfl : timers = 60 := htimers
  have husable : some rate ≠ some 0 := fun hzero => hrate (Option.some.inj hzero)
  -- The program and its speed come first, and then the options that are asked for.
  let options : List Group := (if strict then [.strict] else []) ++ if verbose then [.verbose] else []
  refine ⟨.program path hprogram :: .speed _ rate (Text.spells_toString rate) :: options, ?_⟩
  cases strict <;> cases verbose <;> exact ⟨rfl, husable, rfl, rfl, rfl, rfl⟩

/-- **The grammar of the command line.** A command line is accepted if and only if it splits into groups
of which one is a program and the last speed, if there is one, is not zero; it is understood as what the
groups mean. So groups can be reordered unless speeds overtake each other, and everything that can be
asked for has a command line. -/
theorem parse_grammar :
    (∀ args, (∃ a, parse args = .ok a) ↔ ∃ groups : List Group, args = groups.flatMap Group.words ∧
      (groups.filterMap Group.path?).length = 1 ∧
      (groups.filterMap Group.rate?).getLast? ≠ some 0) ∧
    (∀ (groups : List Group) (a : Arguments),
      parse (groups.flatMap Group.words) = .ok a ↔ Means groups a) ∧
    (∀ groups groups' : List Group, groups.Perm groups' →
      groups.filter Group.isSpeed = groups'.filter Group.isSpeed →
      ∀ a, parse (groups.flatMap Group.words) = .ok a ↔
        parse (groups'.flatMap Group.words) = .ok a) ∧
    ∀ a : Arguments, isOption a.program = false → a.config.cyclesPerSecond ≠ 0 →
      a.config.timersPerSecond = 60 → ∃ args, parse args = .ok a := by
  refine ⟨fun args => ⟨?_, ?_⟩, fun groups a => parse_words, fun groups groups' hperm hspeeds a => ?_,
    fun a hprogram hrate htimers => ?_⟩
  · rintro ⟨a, h⟩
    obtain ⟨groups, rfl⟩ := Draft.exists_groups_of_read (parse_eq_ok.mp h).2
    have hmeans := parse_words.mp h
    exact ⟨groups, rfl, congrArg List.length hmeans.program, hmeans.usable⟩
  · rintro ⟨groups, rfl, hone, husable⟩
    obtain ⟨path, hpath⟩ := List.length_eq_one_iff.mp hone
    let rate := (groups.filterMap Group.rate?).getLast?.getD 500
    let config : Config := ⟨rate, 60, groups.any Group.isStrict⟩
    exact ⟨⟨path, config, groups.any Group.isVerbose⟩,
      parse_words.mpr ⟨hpath, husable, rfl, rfl, rfl, rfl⟩⟩
  · rw [parse_words, parse_words]
    exact ⟨fun h => h.of_perm hperm hspeeds, fun h => h.of_perm hperm.symm hspeeds.symm⟩
  · obtain ⟨groups, hmeans⟩ := exists_means hprogram hrate htimers
    exact ⟨_, parse_words.mpr hmeans⟩

/-- The last of two speeds counts, a single dash is a program, and the options may come first. -/
theorem parse_grammar_two_speeds :
    parse ["--speed", "+0900", "-", "--strict", "--speed", "650"] =
        .ok ⟨"-", { cyclesPerSecond := 650, strict := true }, false⟩ ∧
      parse ["--strict", "--speed", "+0900", "--speed", "650", "-"] =
        .ok ⟨"-", { cyclesPerSecond := 650, strict := true }, false⟩ ∧
      ∃ args, parse args = .ok ⟨"", { cyclesPerSecond := 1 }, true⟩ := by
  obtain ⟨-, hmeans, hreorder, hsayable⟩ := parse_grammar
  have hfirst : Text.Spells "+0900" 900 := Text.readUInt32_eq_some.mp (by decide +kernel)
  have hlast : Text.Spells "650" 650 := Text.readUInt32_eq_some.mp (by decide +kernel)
  have hdash : isOption "-" = false := by decide +kernel
  let first : Group := .speed _ _ hfirst
  let last : Group := .speed _ _ hlast
  let dash : Group := .program _ hdash
  have hone : parse ([first, dash, .strict, last].flatMap Group.words) =
      .ok ⟨"-", { cyclesPerSecond := 650, strict := true }, false⟩ :=
    (hmeans _ _).mpr ⟨rfl, show some (650 : UInt32) ≠ some 0 by decide, rfl, rfl, rfl, rfl⟩
  have hswap : [first, dash, last].Perm [first, last, dash] :=
    (List.Perm.swap last dash []).cons first
  have hmiddle : ([first, dash] ++ .strict :: [last]).Perm (.strict :: ([first, dash] ++ [last])) :=
    List.perm_middle
  have hperm : [first, dash, .strict, last].Perm [.strict, first, last, dash] :=
    hmiddle.trans (hswap.cons _)
  exact ⟨hone, (hreorder _ _ hperm rfl _).mp hone, hsayable _ rfl (by decide) rfl⟩

end Arguments

end Chip8
