import Mathlib.Data.List.Basic
import Mathlib.Data.List.TakeWhile

/-! `getopt_long` of the C library: what its successive calls find in the words of a command line, and
the command lines in which they find just options. -/
namespace TestRunner.Getopt

variable {C : Type} [DecidableEq C]

inductive Argument where
  | no
  | required
  deriving DecidableEq, Repr

structure Long (C : Type) where
  name : List C
  hasArg : Argument
  val : C

structure Table (C : Type) [DecidableEq C] where
  dash : C
  equals : C
  short : List (C × Argument)
  long : List (Long C)
  undeclared : short.lookup dash = none

/-- What a call returns and leaves in `optarg`, or the question mark. -/
inductive Token (C : Type) where
  | option (val : C) (optarg : Option (List C))
  | unknown
  deriving DecidableEq, Repr

/-- How a word is taken: its options, and the one that waits for the next word. -/
inductive Scan (C : Type) where
  | operand
  | terminator
  | options (found : List (Token C)) (waits : Option C)

namespace Table

variable (t : Table C)

/-- The option of this very name, or the only one that the name abbreviates. -/
def longOption (name : List C) : Option (Long C) :=
  match t.long.find? (fun l => l.name = name) with
  | some l => some l
  | none =>
    match t.long.filter (fun l => name.isPrefixOf l.name) with
    | [] => none
    | l :: others =>
      if others.all (fun o => o.hasArg = l.hasArg ∧ o.val = l.val) then some l else none

/-- The letters behind one dash. -/
def bundle : List C → List (Token C) × Option C
  | [] => ([], none)
  | c :: cs =>
    match t.short.lookup c with
    | none => (.unknown :: (bundle cs).1, (bundle cs).2)
    | some .no => (.option c none :: (bundle cs).1, (bundle cs).2)
    | some .required => if cs = [] then ([], some c) else ([.option c (some cs)], none)

/-- The text behind two dashes. -/
def longWord (body : List C) : List (Token C) × Option C :=
  match t.longOption (body.takeWhile (· ≠ t.equals)), body.dropWhile (· ≠ t.equals) with
  | none, _ => ([.unknown], none)
  | some l, [] =>
    match l.hasArg with
    | .no => ([.option l.val none], none)
    | .required => ([], some l.val)
  | some l, _ :: value =>
    match l.hasArg with
    | .no => ([.unknown], none)
    | .required => ([.option l.val (some value)], none)

def scan : List C → Scan C
  | d :: d' :: body =>
    if d ≠ t.dash then .operand
    else if d' ≠ t.dash then .options (t.bundle (d' :: body)).1 (t.bundle (d' :: body)).2
    else if body = [] then .terminator
    else .options (t.longWord body).1 (t.longWord body).2
  | _ => .operand

/-- The calls up to the one that returns -1. `posixlyCorrect` is whether that variable is set. -/
def getoptLong (posixlyCorrect : Bool) : List (List C) → List (Token C)
  | [] => []
  | word :: words =>
    match t.scan word with
    | .terminator => []
    | .operand => if posixlyCorrect then [] else getoptLong posixlyCorrect words
    | .options found none => found ++ getoptLong posixlyCorrect words
    | .options found (some c) =>
      match words with
      | [] => found ++ [.unknown]
      | arg :: words => found ++ .option c (some arg) :: getoptLong posixlyCorrect words

end Table

/-- An option with its argument. -/
abbrev Opt (C : Type) := C × Option (List C)

def Opt.token (o : Opt C) : Token C := .option o.1 o.2

/-- The argument of the last option of this value. -/
def lastOf (c : C) (os : List (Opt C)) : Option (Option (List C)) :=
  ((os.filter fun o => o.1 = c).getLast?).map Prod.snd

/-- Letters without an argument. -/
def Flags (t : Table C) (cs : List C) : Prop := ∀ c ∈ cs, t.short.lookup c = some .no

def flags (cs : List C) : List (Opt C) := cs.map fun c => (c, none)

/-- The ways to write options into a word, or into two. -/
inductive Spells (t : Table C) : List (Opt C) → List (List C) → Prop where
  | letters {cs : List C} (filled : cs ≠ []) (all : Flags t cs) : Spells t (flags cs) [t.dash :: cs]
  | joined {cs : List C} {c : C} {arg : List C} (all : Flags t cs)
      (declared : t.short.lookup c = some .required) (filled : arg ≠ []) :
      Spells t (flags cs ++ [(c, some arg)]) [t.dash :: (cs ++ c :: arg)]
  | apart {cs : List C} {c : C} (all : Flags t cs) (declared : t.short.lookup c = some .required)
      (arg : List C) : Spells t (flags cs ++ [(c, some arg)]) [t.dash :: (cs ++ [c]), arg]
  | long {name : List C} {l : Long C} (filled : name ≠ []) (plain : t.equals ∉ name)
      (named : t.longOption name = some l) (declared : l.hasArg = .no) :
      Spells t [(l.val, none)] [t.dash :: t.dash :: name]
  | longApart {name : List C} {l : Long C} (filled : name ≠ []) (plain : t.equals ∉ name)
      (named : t.longOption name = some l) (declared : l.hasArg = .required) (arg : List C) :
      Spells t [(l.val, some arg)] [t.dash :: t.dash :: name, arg]
  | longJoined {name : List C} {l : Long C} (plain : t.equals ∉ name)
      (named : t.longOption name = some l) (declared : l.hasArg = .required) (arg : List C) :
      Spells t [(l.val, some arg)] [t.dash :: t.dash :: (name ++ t.equals :: arg)]

/-- A command line and the options in it. Operands end it where POSIX is obeyed. -/
inductive CommandLine (t : Table C) (posixlyCorrect : Bool) : List (Opt C) → List (List C) → Prop where
  | nil : CommandLine t posixlyCorrect [] []
  | terminated (words : List (List C)) : CommandLine t posixlyCorrect [] ([t.dash, t.dash] :: words)
  | stopped {word : List C} (operand : t.scan word = .operand) (posix : posixlyCorrect = true)
      (words : List (List C)) : CommandLine t posixlyCorrect [] (word :: words)
  | operand {word : List C} {os : List (Opt C)} {words : List (List C)}
      (operand : t.scan word = .operand) (permuted : posixlyCorrect = false)
      (line : CommandLine t posixlyCorrect os words) : CommandLine t posixlyCorrect os (word :: words)
  | spelled {os os' : List (Opt C)} {ws words : List (List C)} (spells : Spells t os ws)
      (line : CommandLine t posixlyCorrect os' words) : CommandLine t posixlyCorrect (os ++ os') (ws ++ words)

variable {t : Table C} {posixlyCorrect : Bool}

theorem Spells.letter {c : C} (declared : t.short.lookup c = some .no) :
    Spells t [(c, none)] [[t.dash, c]] :=
  .letters (List.cons_ne_nil c []) (List.forall_mem_singleton.mpr declared)

theorem Spells.setting {c : C} (declared : t.short.lookup c = some .required) (arg : List C) :
    Spells t [(c, some arg)] [[t.dash, c], arg] :=
  have none : Flags t [] := nofun
  .apart none declared arg

omit [DecidableEq C] in
theorem found_inj {os os' : List (Opt C)} (same : os.map Opt.token = os'.map Opt.token) : os = os' := by
  refine List.map_injective_iff.mpr ?_ same
  rintro ⟨c, arg⟩ ⟨c', arg'⟩ here
  simpa [Opt.token] using here

theorem lastOf_cons (c : C) (o : Opt C) (os : List (Opt C)) :
    lastOf c (o :: os) = (lastOf c os).or (if o.1 = c then some o.2 else none) := by
  unfold lastOf
  rw [List.filter_cons]
  split
  · rename_i same
    rw [if_pos (by simpa using same), List.getLast?_cons]
    cases (os.filter fun o => o.1 = c).getLast? <;> rfl
  · rename_i other
    rw [if_neg (by simpa using other), Option.or_none]

theorem lastOf_mem {c : C} {os : List (Opt C)} {arg : Option (List C)}
    (last : lastOf c os = some arg) : (c, arg) ∈ os := by
  obtain ⟨o, here, rfl⟩ := Option.map_eq_some_iff.mp last
  obtain ⟨inside, same⟩ := List.mem_filter.mp (List.mem_of_getLast? here)
  obtain rfl : o.1 = c := by simpa using same
  exact inside

/-- How letters are read when all of them are options. -/
inductive Bundle (t : Table C) : List C → List (Opt C) → Option C → Prop where
  | letters {cs : List C} (all : Flags t cs) : Bundle t cs (flags cs) none
  | joined {cs : List C} {c : C} {arg : List C} (all : Flags t cs)
      (declared : t.short.lookup c = some .required) (filled : arg ≠ []) :
      Bundle t (cs ++ c :: arg) (flags cs ++ [(c, some arg)]) none
  | waits {cs : List C} {c : C} (all : Flags t cs) (declared : t.short.lookup c = some .required) :
      Bundle t (cs ++ [c]) (flags cs) (some c)

theorem Bundle.flag {c : C} {cs : List C} {os : List (Opt C)} {waits : Option C}
    (declared : t.short.lookup c = some .no) (bundle : Bundle t cs os waits) :
    Bundle t (c :: cs) ((c, none) :: os) waits := by
  have all {fs : List C} (rest : Flags t fs) : Flags t (c :: fs) :=
    List.forall_mem_cons.mpr ⟨declared, rest⟩
  cases bundle with
  | letters rest => exact .letters (all rest)
  | joined rest last filled => exact .joined (all rest) last filled
  | waits rest last => exact .waits (all rest) last

theorem bundle_of_options {cs : List C} {os : List (Opt C)}
    (read : (t.bundle cs).1 = os.map Opt.token) : Bundle t cs os (t.bundle cs).2 := by
  induction cs generalizing os with
  | nil =>
    obtain rfl : os = [] := by simpa [Table.bundle] using read.symm
    exact .letters nofun
  | cons c cs ih =>
    unfold Table.bundle at read ⊢
    cases declared : t.short.lookup c with
    | none =>
      simp only [declared] at read
      cases os with
      | nil => cases read
      | cons o os => cases (List.cons.inj read).1
    | some arg =>
      cases arg with
      | no =>
        simp only [declared] at read ⊢
        cases os with
        | nil => cases read
        | cons o os =>
          obtain ⟨first, rest⟩ := List.cons.inj read
          obtain rfl : o = (c, none) := by
            cases o
            simpa [Opt.token, eq_comm] using first
          exact .flag declared (ih rest)
      | required =>
        have empty : Flags t [] := nofun
        simp only [declared] at read ⊢
        split at read
        · rename_i last
          obtain rfl : os = [] := by simpa using read.symm
          subst last
          exact .waits empty declared
        · rename_i filled
          obtain rfl : os = [(c, some cs)] := found_inj read.symm
          rw [if_neg filled]
          exact .joined empty declared filled

theorem bundle_flags {cs : List C} (all : Flags t cs) (rest : List C) :
    t.bundle (cs ++ rest) = ((flags cs).map Opt.token ++ (t.bundle rest).1, (t.bundle rest).2) := by
  induction cs with
  | nil => rfl
  | cons c cs ih =>
    obtain ⟨declared, others⟩ := List.forall_mem_cons.mp all
    simp only [List.cons_append, Table.bundle, declared, ih others]
    rfl

theorem scan_letters {c : C} {a : Argument} (declared : t.short.lookup c = some a) (cs : List C) :
    t.scan (t.dash :: c :: cs) = .options (t.bundle (c :: cs)).1 (t.bundle (c :: cs)).2 := by
  have other : c ≠ t.dash := by
    rintro rfl
    simp [t.undeclared] at declared
  simp [Table.scan, other]

theorem scan_long {body : List C} (filled : body ≠ []) :
    t.scan (t.dash :: t.dash :: body) = .options (t.longWord body).1 (t.longWord body).2 := by
  simp [Table.scan, filled]

theorem takeWhile_name {name : List C} (plain : t.equals ∉ name) :
    name.takeWhile (· ≠ t.equals) = name ∧ name.dropWhile (· ≠ t.equals) = [] := by
  have all : ∀ c ∈ name, decide (c ≠ t.equals) = true := by
    intro c inside
    simpa using fun same : c = t.equals => plain (same ▸ inside)
  exact ⟨List.takeWhile_eq_self_iff.mpr all, List.dropWhile_eq_nil_iff.mpr all⟩

theorem longWord_plain {name : List C} {l : Long C} (plain : t.equals ∉ name)
    (named : t.longOption name = some l) :
    t.longWord name = match l.hasArg with
      | .no => ([.option l.val none], none)
      | .required => ([], some l.val) := by
  obtain ⟨whole, none⟩ := takeWhile_name plain
  unfold Table.longWord
  rw [whole, none, named]

theorem longWord_joined {name : List C} {l : Long C} (plain : t.equals ∉ name)
    (named : t.longOption name = some l) (declared : l.hasArg = .required) (arg : List C) :
    t.longWord (name ++ t.equals :: arg) = ([.option l.val (some arg)], none) := by
  have all : ∀ c ∈ name, decide (c ≠ t.equals) = true := by
    intro c inside
    simpa using fun same : c = t.equals => plain (same ▸ inside)
  have before : (name ++ t.equals :: arg).takeWhile (· ≠ t.equals) = name := by
    rw [List.takeWhile_append_of_pos all]
    simp
  have behind : (name ++ t.equals :: arg).dropWhile (· ≠ t.equals) = t.equals :: arg := by
    rw [List.dropWhile_append_of_pos all]
    simp
  unfold Table.longWord
  rw [before, behind, named]
  simp [declared]

/-- A text behind two dashes that is one option, or asks for the next word. -/
theorem longWord_of_options {body : List C} {os : List (Opt C)} (filled : body ≠ [])
    (read : (t.longWord body).1 = os.map Opt.token) :
    ((t.longWord body).2 = none → Spells t os [t.dash :: t.dash :: body]) ∧
    ∀ c, (t.longWord body).2 = some c → ∀ arg,
      Spells t (os ++ [(c, some arg)]) [t.dash :: t.dash :: body, arg] := by
  have plain : t.equals ∉ body.takeWhile (· ≠ t.equals) := by
    intro inside
    simpa using List.mem_takeWhile_imp inside
  have parts : body.takeWhile (· ≠ t.equals) ++ body.dropWhile (· ≠ t.equals) = body :=
    List.takeWhile_append_dropWhile
  unfold Table.longWord at read ⊢
  cases named : t.longOption (body.takeWhile (· ≠ t.equals)) with
  | none =>
    simp only [named] at read
    cases os with
    | nil => cases read
    | cons o os => cases (List.cons.inj read).1
  | some l =>
    cases behind : body.dropWhile (· ≠ t.equals) with
    | nil =>
      have whole : body.takeWhile (· ≠ t.equals) = body := by
        rw [behind, List.append_nil] at parts
        exact parts
      rw [whole] at named plain
      cases declared : l.hasArg with
      | no =>
        simp only [whole, named, behind, declared] at read ⊢
        obtain rfl : os = [(l.val, none)] := found_inj read.symm
        exact ⟨fun _ => .long filled plain named declared, nofun⟩
      | required =>
        simp only [whole, named, behind, declared] at read ⊢
        obtain rfl : os = [] := by simpa using read.symm
        refine ⟨nofun, fun c waits arg => ?_⟩
        obtain rfl := Option.some.inj waits
        exact .longApart filled plain named declared arg
    | cons d value =>
      cases declared : l.hasArg with
      | no =>
        simp only [named, behind, declared] at read
        cases os with
        | nil => cases read
        | cons o os => cases (List.cons.inj read).1
      | required =>
        simp only [named, behind, declared] at read ⊢
        obtain rfl : os = [(l.val, some value)] := found_inj read.symm
        have first : d = t.equals := by
          have cut := List.head?_dropWhile_not (fun c => decide (c ≠ t.equals)) body
          rw [behind] at cut
          simpa using cut
        subst first
        have spells := Spells.longJoined plain named declared value
        rw [← behind, parts] at spells
        exact ⟨fun _ => spells, nofun⟩

theorem Bundle.spells {cs : List C} {os : List (Opt C)} {waits : Option C} (filled : cs ≠ [])
    (bundle : Bundle t cs os waits) : (waits = none → Spells t os [t.dash :: cs]) ∧
    ∀ c, waits = some c → ∀ arg, Spells t (os ++ [(c, some arg)]) [t.dash :: cs, arg] := by
  cases bundle with
  | letters all => exact ⟨fun _ => .letters filled all, nofun⟩
  | joined all declared filled' => exact ⟨fun _ => .joined all declared filled', nofun⟩
  | waits all declared =>
    refine ⟨nofun, fun c waits arg => ?_⟩
    obtain rfl := Option.some.inj waits
    exact .apart all declared arg

theorem spells_of_scan {word : List C} {os : List (Opt C)} {waits : Option C}
    (read : t.scan word = .options (os.map Opt.token) waits) :
    (waits = none → Spells t os [word]) ∧
    ∀ c, waits = some c → ∀ arg, Spells t (os ++ [(c, some arg)]) [word, arg] := by
  match word with
  | [] | [_] => cases read
  | d :: d' :: body =>
    rw [Table.scan] at read
    split_ifs at read with other letter none
    · obtain rfl : d = t.dash := not_not.mp other
      obtain ⟨found, rfl⟩ := Scan.options.inj read
      exact (bundle_of_options found).spells (List.cons_ne_nil _ _)
    · obtain rfl : d = t.dash := not_not.mp other
      obtain rfl : d' = t.dash := not_not.mp letter
      obtain ⟨found, rfl⟩ := Scan.options.inj read
      exact longWord_of_options none found

theorem terminator_of_scan {word : List C} (read : t.scan word = .terminator) :
    word = [t.dash, t.dash] := by
  match word with
  | [] | [_] => cases read
  | d :: d' :: body =>
    rw [Table.scan] at read
    split_ifs at read with other letter none
    rw [not_not.mp other, not_not.mp letter, none]

theorem getoptLong_options {word : List C} {found : List (Token C)}
    (scanned : t.scan word = .options found none) (words : List (List C)) :
    t.getoptLong posixlyCorrect (word :: words) = found ++ t.getoptLong posixlyCorrect words := by
  rw [Table.getoptLong, scanned]

theorem getoptLong_waits {word : List C} {found : List (Token C)} {c : C}
    (scanned : t.scan word = .options found (some c)) (arg : List C) (words : List (List C)) :
    t.getoptLong posixlyCorrect (word :: arg :: words) =
      found ++ .option c (some arg) :: t.getoptLong posixlyCorrect words := by
  rw [Table.getoptLong, scanned]

theorem scan_flags {cs rest : List C} {c : C} (first : (cs ++ rest).head? = some c)
    (all : Flags t cs) (declared : cs = [] → t.short.lookup c = some .required) :
    t.scan (t.dash :: (cs ++ rest)) =
      .options ((flags cs).map Opt.token ++ (t.bundle rest).1) (t.bundle rest).2 := by
  have known : ∃ a, t.short.lookup c = some a := by
    cases cs with
    | nil => exact ⟨_, declared rfl⟩
    | cons b cs =>
      obtain rfl : b = c := by simpa using first
      exact ⟨_, all b List.mem_cons_self⟩
  obtain ⟨a, known⟩ := known
  obtain ⟨more, whole⟩ := List.head?_eq_some_iff.mp first
  have read := bundle_flags all rest
  rw [whole] at read ⊢
  rw [scan_letters known, read]

/-- The calls find the options of a spelling, and go on behind it. -/
theorem getoptLong_spells {os : List (Opt C)} {ws : List (List C)} (spells : Spells t os ws)
    (words : List (List C)) : t.getoptLong posixlyCorrect (ws ++ words) =
      os.map Opt.token ++ t.getoptLong posixlyCorrect words := by
  cases spells with
  | @letters cs filled all =>
    have first : (cs ++ []).head? = some (cs.head filled) := by simp [List.head?_eq_some_head filled]
    have scanned := scan_flags first all fun none => absurd none filled
    rw [List.append_nil] at scanned
    rw [List.singleton_append, getoptLong_options scanned]
    simp [Table.bundle]
  | @joined cs c arg all declared filled =>
    have behind : t.bundle (c :: arg) = ([.option c (some arg)], none) := by
      simp [Table.bundle, declared, filled]
    obtain ⟨first, at_⟩ : ∃ b, (cs ++ c :: arg).head? = some b := by cases cs <;> simp
    have scanned := scan_flags at_ all (by rintro rfl; simp_all)
    rw [behind] at scanned
    rw [List.singleton_append, getoptLong_options scanned, List.map_append]
    rfl
  | @apart cs c all declared arg =>
    have behind : t.bundle [c] = ([], some c) := by simp [Table.bundle, declared]
    obtain ⟨first, at_⟩ : ∃ b, (cs ++ [c]).head? = some b := by cases cs <;> simp
    have scanned := scan_flags at_ all (by rintro rfl; simp_all)
    rw [behind, List.append_nil] at scanned
    rw [List.cons_append, List.singleton_append, getoptLong_waits scanned, List.map_append,
      List.append_assoc]
    rfl
  | long filled plain named declared =>
    have scanned := scan_long (t := t) filled
    rw [longWord_plain plain named, declared] at scanned
    exact getoptLong_options scanned words
  | longApart filled plain named declared arg =>
    have scanned := scan_long (t := t) filled
    rw [longWord_plain plain named, declared] at scanned
    exact getoptLong_waits scanned arg words
  | @longJoined name l plain named declared arg =>
    have scanned := scan_long (t := t) (List.append_ne_nil_of_right_ne_nil name (List.cons_ne_nil t.equals arg))
    rw [longWord_joined plain named declared] at scanned
    exact getoptLong_options scanned words

/-- The calls find options only, and these, exactly in the command lines that are written so. -/
theorem getoptLong_eq_iff {os : List (Opt C)} {words : List (List C)} :
    t.getoptLong posixlyCorrect words = os.map Opt.token ↔ CommandLine t posixlyCorrect os words := by
  constructor
  · intro read
    fun_induction t.getoptLong posixlyCorrect words generalizing os with
    | case1 =>
      obtain rfl : os = [] := by simpa using read.symm
      exact .nil
    | case2 word words scanned =>
      obtain rfl : os = [] := by simpa using read.symm
      rw [terminator_of_scan scanned]
      exact .terminated words
    | case3 word words scanned posix =>
      obtain rfl : os = [] := by simpa using read.symm
      exact .stopped scanned posix words
    | case4 word words scanned permuted ih =>
      exact .operand scanned (by simpa using permuted) (ih read)
    | case5 word words found scanned ih =>
      obtain ⟨first, rest, rfl, here, behind⟩ := List.append_eq_map_iff.mp read
      rw [← here] at scanned
      exact .spelled ((spells_of_scan scanned).1 rfl) (ih behind.symm)
    | case6 word found c scanned =>
      obtain ⟨first, rest, rfl, here, behind⟩ := List.append_eq_map_iff.mp read
      cases rest with
      | nil => cases behind
      | cons o rest => cases (List.cons.inj behind).1
    | case7 word found c scanned arg words ih =>
      obtain ⟨first, rest, rfl, here, behind⟩ := List.append_eq_map_iff.mp read
      rw [← here] at scanned
      cases rest with
      | nil => cases behind
      | cons o rest =>
        obtain ⟨last, others⟩ := List.cons.inj behind
        obtain rfl : o = (c, some arg) := by
          cases o
          simpa [Opt.token] using last
        have line := CommandLine.spelled ((spells_of_scan scanned).2 c rfl arg) (ih others.symm)
        simpa using line
  · intro line
    induction line with
    | nil => rfl
    | terminated words => simp [Table.getoptLong, Table.scan]
    | stopped operand posix words => simp [Table.getoptLong, operand, posix]
    | operand operand permuted line ih =>
      subst permuted
      simp [Table.getoptLong, operand, ih]
    | spelled spells line ih => rw [getoptLong_spells spells, ih, List.map_append]

theorem longOption_of_some {name : List C} {l : Long C} (named : t.longOption name = some l) :
    l ∈ t.long ∧ name <+: l.name := by
  unfold Table.longOption at named
  cases exact : t.long.find? (fun l => l.name = name) with
  | some l' =>
    simp only [exact] at named
    obtain rfl := Option.some.inj named
    have same : l'.name = name := by simpa using List.find?_some exact
    exact ⟨List.mem_of_find?_eq_some exact, same ▸ List.prefix_rfl⟩
  | none =>
    simp only [exact] at named
    cases begun : t.long.filter (fun l => name.isPrefixOf l.name) with
    | nil => simp [begun] at named
    | cons l' others =>
      simp only [begun] at named
      split_ifs at named
      obtain rfl := Option.some.inj named
      have inside : l' ∈ t.long.filter (fun l => name.isPrefixOf l.name) := begun ▸ List.mem_cons_self
      simpa using List.mem_filter.mp inside

theorem optarg_bundle {cs : List C} {c : C} (inside : .option c none ∈ (t.bundle cs).1) :
    t.short.lookup c = some .no := by
  induction cs with
  | nil => cases inside
  | cons b cs ih =>
    unfold Table.bundle at inside
    cases declared : t.short.lookup b with
    | none =>
      simp only [declared, List.mem_cons, reduceCtorEq, false_or] at inside
      exact ih inside
    | some a =>
      cases a with
      | no =>
        simp only [declared, List.mem_cons, Token.option.injEq, and_true] at inside
        rcases inside with rfl | inside
        · exact declared
        · exact ih inside
      | required =>
        simp only [declared] at inside
        split at inside <;> simp at inside

theorem optarg_longWord {body : List C} {c : C} (inside : .option c none ∈ (t.longWord body).1) :
    ∃ l, t.longOption body = some l ∧ l.hasArg = .no ∧ l.val = c := by
  have parts : body.takeWhile (· ≠ t.equals) ++ body.dropWhile (· ≠ t.equals) = body :=
    List.takeWhile_append_dropWhile
  unfold Table.longWord at inside
  cases named : t.longOption (body.takeWhile (· ≠ t.equals)) with
  | none =>
    simp only [named] at inside
    simp at inside
  | some l =>
    cases behind : body.dropWhile (· ≠ t.equals) with
    | nil =>
      rw [behind, List.append_nil] at parts
      cases declared : l.hasArg with
      | no =>
        simp only [named, behind, declared, List.mem_singleton, Token.option.injEq, and_true] at inside
        exact ⟨l, parts ▸ named, declared, inside.symm⟩
      | required =>
        simp only [named, behind, declared] at inside
        cases inside
    | cons d value =>
      cases declared : l.hasArg with
      | no =>
        simp only [named, behind, declared] at inside
        simp at inside
      | required =>
        simp only [named, behind, declared] at inside
        simp at inside

/-- The table has the option without an argument: as a letter, or under a name among the words. -/
def Bare (t : Table C) (c : C) (words : List (List C)) : Prop :=
  t.short.lookup c = some .no ∨ ∃ name l, t.dash :: t.dash :: name ∈ words ∧ name ≠ [] ∧
    t.longOption name = some l ∧ l.hasArg = .no ∧ l.val = c

theorem Bare.mono {c : C} {words words' : List (List C)} (bare : Bare t c words)
    (part : words ⊆ words') : Bare t c words' :=
  bare.imp_right fun ⟨name, l, inside, more⟩ => ⟨name, l, part inside, more⟩

theorem bare_of_scan {word : List C} {found : List (Token C)} {waits : Option C} {c : C}
    (read : t.scan word = .options found waits) (inside : .option c none ∈ found) :
    Bare t c [word] := by
  match word with
  | [] | [_] => cases read
  | d :: d' :: body =>
    rw [Table.scan] at read
    split_ifs at read with other letter none
    · obtain ⟨rfl, -⟩ := Scan.options.inj read
      exact .inl (optarg_bundle inside)
    · obtain ⟨rfl, -⟩ := Scan.options.inj read
      obtain ⟨l, named, declared, val⟩ := optarg_longWord inside
      rw [not_not.mp other, not_not.mp letter]
      exact .inr ⟨body, l, List.mem_singleton_self _, none, named, declared, val⟩

/-- A null `optarg` comes from an option that takes none. -/
theorem bare_of_found {words : List (List C)} {c : C}
    (inside : .option c none ∈ t.getoptLong posixlyCorrect words) : Bare t c words := by
  fun_induction t.getoptLong posixlyCorrect words with
  | case1 | case2 | case3 => cases inside
  | case4 word words operand permuted ih => exact (ih inside).mono (List.subset_cons_self _ _)
  | case5 word words found read ih =>
    rcases List.mem_append.mp inside with here | behind
    · exact (bare_of_scan read here).mono (by simp)
    · exact (ih behind).mono (List.subset_cons_self _ _)
  | case6 word found d read =>
    rcases List.mem_append.mp inside with here | behind
    · exact bare_of_scan read here
    · simp at behind
  | case7 word found d read arg words ih =>
    rcases List.mem_append.mp inside with here | behind
    · exact (bare_of_scan read here).mono (by simp)
    · rcases List.mem_cons.mp behind with here | behind
      · cases here
      · exact (ih behind).mono fun w inside => List.mem_cons_of_mem _ (List.mem_cons_of_mem _ inside)

section Loop

variable {S E : Type} {body : S → Token C → Except E S}

omit [DecidableEq C] in
theorem foldlM_cons_ok {x : Token C} {found : List (Token C)} {s s' : S} :
    (x :: found).foldlM body s = .ok s' ↔
      ∃ between, body s x = .ok between ∧ found.foldlM body between = .ok s' := by
  cases stepped : body s x <;> simp [stepped, bind, Except.bind]

omit [DecidableEq C] in
theorem foldlM_ok_iff {P : Token C → Prop} (accepts : ∀ s x, (∃ s', body s x = .ok s') ↔ P x)
    (found : List (Token C)) (s : S) : (∃ s', found.foldlM body s = .ok s') ↔ ∀ x ∈ found, P x := by
  induction found generalizing s with
  | nil => exact iff_of_true ⟨s, rfl⟩ nofun
  | cons x found ih =>
    rw [List.forall_mem_cons, ← accepts s]
    simp only [foldlM_cons_ok]
    constructor
    · rintro ⟨s', between, stepped, ran⟩
      exact ⟨⟨between, stepped⟩, (ih between).mp ⟨s', ran⟩⟩
    · rintro ⟨⟨between, stepped⟩, rest⟩
      obtain ⟨s', ran⟩ := (ih between).mpr rest
      exact ⟨s', between, stepped, ran⟩

omit [DecidableEq C] in
theorem foldlM_error {found : List (Token C)} {s : S} {e : E}
    (ran : found.foldlM body s = .error e) : ∃ x ∈ found, ∃ s, body s x = .error e := by
  induction found generalizing s with
  | nil => cases ran
  | cons x found ih =>
    cases stepped : body s x with
    | error e' =>
      obtain rfl : e' = e := by simpa [stepped, bind, Except.bind] using ran
      exact ⟨x, List.mem_cons_self, s, stepped⟩
    | ok s' =>
      obtain ⟨x', inside, more⟩ := ih (s := s') (by simpa [stepped, bind, Except.bind] using ran)
      exact ⟨x', List.mem_cons_of_mem _ inside, more⟩

omit [DecidableEq C] in
theorem foldlM_kept {V : Type} (get : S → V) (step : ∀ s x s', body s x = .ok s' → get s' = get s)
    {found : List (Token C)} {s s' : S} (ran : found.foldlM body s = .ok s') : get s' = get s := by
  induction found generalizing s with
  | nil =>
    obtain rfl := Except.ok.inj ran
    rfl
  | cons x found ih =>
    obtain ⟨between, stepped, rest⟩ := foldlM_cons_ok.mp ran
    exact (ih rest).trans (step s x between stepped)

/-- A field that one kind of option sets has what the last of them says. -/
theorem foldlM_field {V : Type} (get : S → V) (set : Option (List C) → V) (c : C)
    (step : ∀ s o s', body s (Opt.token o) = .ok s' → get s' = if o.1 = c then set o.2 else get s)
    {os : List (Opt C)} {s s' : S} (ran : (os.map Opt.token).foldlM body s = .ok s') :
    get s' = ((lastOf c os).map set).getD (get s) := by
  induction os generalizing s with
  | nil =>
    obtain rfl := Except.ok.inj ran
    rfl
  | cons o os ih =>
    obtain ⟨between, stepped, rest⟩ := foldlM_cons_ok.mp ran
    rw [ih rest, step s o between stepped, lastOf_cons]
    cases lastOf c os with
    | some arg => rfl
    | none => split <;> rfl

omit [DecidableEq C] in
theorem written_of_all {P : Opt C → Prop} {found : List (Token C)}
    (all : ∀ x ∈ found, ∃ o, x = Opt.token o ∧ P o) :
    ∃ os : List (Opt C), found = os.map Opt.token ∧ ∀ o ∈ os, P o := by
  induction found with
  | nil => exact ⟨[], rfl, nofun⟩
  | cons x found ih =>
    obtain ⟨⟨o, rfl, first⟩, rest⟩ := List.forall_mem_cons.mp all
    obtain ⟨os, rfl, held⟩ := ih rest
    exact ⟨o :: os, rfl, List.forall_mem_cons.mpr ⟨first, held⟩⟩

/-- A program that reads its options in a loop accepts the command lines of options that the body
of the loop accepts. -/
theorem loop_ok_iff {P : Opt C → Prop} {asked : S → List (Opt C) → S}
    (refuses : ∀ s, ∃ e, body s .unknown = .error e)
    (accepts : ∀ s o, (∃ s', body s (Opt.token o) = .ok s') ↔ P o)
    (result : ∀ s s' (os : List (Opt C)), (os.map Opt.token).foldlM body s = .ok s' → s' = asked s os)
    {words : List (List C)} {s s' : S} :
    (t.getoptLong posixlyCorrect words).foldlM body s = .ok s' ↔
      ∃ os, CommandLine t posixlyCorrect os words ∧ (∀ o ∈ os, P o) ∧ s' = asked s os := by
  have each (s : S) (x : Token C) : (∃ s', body s x = .ok s') ↔ ∃ o, x = Opt.token o ∧ P o := by
    cases x with
    | unknown =>
      obtain ⟨e, refused⟩ := refuses s
      simp [refused, Opt.token]
    | option c arg =>
      rw [show Token.option c arg = Opt.token (c, arg) from rfl, accepts s]
      constructor
      · exact fun held => ⟨_, rfl, held⟩
      · rintro ⟨o, same, held⟩
        obtain rfl : o = (c, arg) := by
          cases o
          simpa [Opt.token, eq_comm] using same
        exact held
  constructor
  · intro ran
    have all := (foldlM_ok_iff each _ s).mp ⟨s', ran⟩
    obtain ⟨os, found, held⟩ := written_of_all all
    exact ⟨os, getoptLong_eq_iff.mp found, held, result s s' os (found ▸ ran)⟩
  · rintro ⟨os, line, held, rfl⟩
    rw [getoptLong_eq_iff.mpr line]
    have all : ∀ x ∈ os.map Opt.token, ∃ o, x = Opt.token o ∧ P o := by
      intro x inside
      obtain ⟨o, here, rfl⟩ := List.mem_map.mp inside
      exact ⟨o, rfl, held o here⟩
    obtain ⟨s', ran⟩ := (foldlM_ok_iff each _ s).mpr all
    rw [ran, result s s' os ran]

end Loop

end TestRunner.Getopt
