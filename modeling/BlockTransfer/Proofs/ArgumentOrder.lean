/-
BlockTransfer.Proofs.ArgumentOrder — the order of a command line does not matter.

An `Argument` is a path, the word of a flag, or letters of flags that stand
together; a path is not empty and does not begin with a dash, so that it can be
told from flags wherever it stands. Of a command line of such arguments only two
things count: the flags in it, in whatever spellings, and the paths in their
order.

`Takes flags paths outcome` says what reading so many of both comes to: all of
them are taken, or there is a usage error because a flag is given twice or a path
is too many. Every reader keeps to this (`takes_flag`, `takes_path`,
`takes_letters`, `takes_arguments`), and the command line as a whole depends on
the outcome only (`ofArguments_any_order`).
-/
import BlockTransfer.Options.Parser

namespace BlockTransfer

/-! ## Command lines of paths and flags -/

/-- A path that looks like one. -/
structure PlainPath where
  text : String
  text_ne : text ≠ ""
  undashed : text.toList.head? ≠ some '-'
deriving DecidableEq, Repr

/-- An argument of a command line: a path, the word of a flag after two dashes,
or the letters of flags after one. -/
inductive Argument where
  | path (written : PlainPath)
  | word (flag : Flag)
  | letters (first : Flag) (others : List Flag)
deriving DecidableEq, Repr

namespace Argument

/-- The argument as it is written. -/
def text : Argument → String
  | .path written => written.text
  | .word flag => "--" ++ flag.word
  | .letters first others => String.ofList ('-' :: (first :: others).map Flag.letter)

/-- The flags that an argument gives. -/
def flags : Argument → List Flag
  | .path _ => []
  | .word flag => [flag]
  | .letters first others => first :: others

/-- The path that an argument is, if it is one. -/
def paths : Argument → List String
  | .path written => [written.text]
  | .word _ => []
  | .letters _ _ => []

end Argument

/-- Whether a flag is given. -/
def Options.given (options : Options) : Flag → Bool
  | .table => options.table
  | .yaml => options.yaml
  | .sha1sum => options.sha1sum
  | .noProgress => options.noProgress

namespace Options

/-! ## Flags by their letters and words -/

theorem requestOfLetter?_letter (flag : Flag) :
    requestOfLetter? flag.letter = some (.flag flag) := by
  cases flag <;> decide

theorem word_of_word (reading : Reading) (flag : Flag) :
    reading.word flag.word.toList = reading.request (.flag flag) := by
  have hrequest : requestOfWord? (flag.word.toList.takeWhile (· ≠ '=')) = some (.flag flag) := by
    cases flag <;> decide
  have hplain : '=' ∉ flag.word.toList := by
    cases flag <;> decide
  simp only [Reading.word, hrequest, if_neg hplain]

/-! ## What reading comes to -/

namespace Reading

/-- What taking these flags and these paths comes to. -/
inductive Takes (flags : List Flag) (paths : List String) : Except Stop Reading → Prop
  | all (hflags : flags.Nodup) (hpaths : paths.length ≤ pathLimit) :
      Takes flags paths (.ok ⟨flags, paths⟩)
  | refused (error) (hover : ¬ (flags.Nodup ∧ paths.length ≤ pathLimit)) :
      Takes flags paths (.error (.usage error))

section

variable {flags allFlags : List Flag} {paths allPaths : List String}

/-- What follows goes on from what was taken; a flag given twice or a path too
many does not go away. -/
theorem Takes.bind {outcome : Except Stop Reading} {next : Reading → Except Stop Reading}
    (h : Takes flags paths outcome) (hflags : flags <+: allFlags) (hpaths : paths <+: allPaths)
    (hnext : flags.Nodup → paths.length ≤ pathLimit →
      Takes allFlags allPaths (next ⟨flags, paths⟩)) :
    Takes allFlags allPaths (outcome >>= next) := by
  cases h with
  | all hnodup hlength => exact hnext hnodup hlength
  | refused error hover =>
    refine .refused error fun hboth => hover ⟨hboth.1.sublist hflags.sublist, ?_⟩
    exact Nat.le_trans hpaths.length_le hboth.2

/-- No path is settled as empty where none is. -/
theorem settle_eq (hpaths : ∀ path ∈ paths, path ≠ "") :
    settle ⟨flags, paths⟩ = .ok ⟨flags, paths⟩ :=
  if_neg fun hlast => hpaths "" (List.mem_of_getLast? hlast) rfl

variable (hclean : ∀ path ∈ paths, path ≠ "") (hflags : flags.Nodup)

include hclean hflags

theorem takes_flag (hpaths : paths.length ≤ pathLimit) (flag : Flag) :
    Takes (flags ++ [flag]) paths (request ⟨flags, paths⟩ (.flag flag)) := by
  have hrequest : request ⟨flags, paths⟩ (.flag flag) =
      if flag ∈ flags then .error (.usage .argumentConflict) else .ok ⟨flags ++ [flag], paths⟩ := by
    simp only [request, settle_eq hclean]
    rfl
  rw [hrequest]
  split
  · next hgiven =>
    refine .refused _ fun hboth => ?_
    exact (List.nodup_append.mp hboth.1).2.2 flag hgiven flag (by simp) rfl
  · next hfirst =>
    refine .all (List.nodup_append.mpr ⟨hflags, by simp, fun other hother last hlast => ?_⟩) hpaths
    rintro rfl
    exact hfirst (List.mem_singleton.mp hlast ▸ hother)

theorem takes_path (path : String) :
    Takes flags (paths ++ [path]) (Reading.path ⟨flags, paths⟩ path) := by
  unfold Reading.path
  simp only [settle_eq hclean]
  split
  · next hfull =>
    refine .refused _ fun hboth => ?_
    have hlength := hboth.2
    rw [List.length_append, List.length_singleton] at hlength
    exact absurd hfull (Nat.not_le.mpr hlength)
  · next hroom =>
    refine .all hflags ?_
    rw [List.length_append, List.length_singleton]
    exact Nat.lt_of_not_le hroom

/-- Letters that stand together are flags one after the other. -/
theorem takes_letters (hpaths : paths.length ≤ pathLimit) (given : List Flag) :
    Takes (flags ++ given) paths (letters ⟨flags, paths⟩ (given.map Flag.letter)) := by
  induction given generalizing flags with
  | nil =>
    rw [List.append_nil]
    exact .all hflags hpaths
  | cons flag given ih =>
    have hstep : letters ⟨flags, paths⟩ ((flag :: given).map Flag.letter) =
        request ⟨flags, paths⟩ (.flag flag) >>= fun reading =>
          reading.letters (given.map Flag.letter) := by
      rw [List.map_cons, letters, requestOfLetter?_letter]
    rw [hstep, List.append_cons]
    exact (takes_flag hclean hflags hpaths flag).bind (List.prefix_append _ _) List.prefix_rfl
      fun hgiven _ => ih hgiven

/-! ## Reading the arguments -/

/-- Takes one argument. -/
def take (reading : Reading) : Argument → Except Stop Reading
  | .path written => reading.path written.text
  | .word flag => reading.request (.flag flag)
  | .letters first others => reading.letters ((first :: others).map Flag.letter)

theorem takes_argument (hpaths : paths.length ≤ pathLimit) (argument : Argument) :
    Takes (flags ++ argument.flags) (paths ++ argument.paths) (take ⟨flags, paths⟩ argument) := by
  cases argument with
  | path written =>
    rw [Argument.flags, List.append_nil]
    exact takes_path hclean hflags written.text
  | word flag =>
    rw [Argument.paths, List.append_nil]
    exact takes_flag hclean hflags hpaths flag
  | letters first others =>
    rw [Argument.paths, List.append_nil]
    exact takes_letters hclean hflags hpaths (first :: others)

end

section

variable {reading : Reading} {argument : String} {arguments : List String}

theorem arguments_path (h : argument.toList.head? ≠ some '-') :
    reading.arguments (argument :: arguments) =
      reading.path argument >>= fun reading => reading.arguments arguments := by
  rw [Reading.arguments]
  split <;> simp_all

theorem arguments_word {written : List Char} (h : argument.toList = '-' :: '-' :: written)
    (hsome : written ≠ []) :
    reading.arguments (argument :: arguments) =
      reading.word written >>= fun reading => reading.arguments arguments := by
  obtain ⟨c, cs, rfl⟩ := List.exists_cons_of_ne_nil hsome
  rw [Reading.arguments, h]
  rfl

theorem arguments_letters {c : Char} {cs : List Char} (h : argument.toList = '-' :: c :: cs)
    (hletter : c ≠ '-') :
    reading.arguments (argument :: arguments) =
      reading.letters (c :: cs) >>= fun reading => reading.arguments arguments := by
  rw [Reading.arguments, h]
  split <;> simp_all

end

/-- An argument is told from the others by how it begins. -/
theorem arguments_cons (reading : Reading) (argument : Argument) (arguments : List String) :
    reading.arguments (argument.text :: arguments) =
      reading.take argument >>= fun reading => reading.arguments arguments := by
  cases argument with
  | path written => exact arguments_path written.undashed
  | word flag =>
    have hwritten : (Argument.word flag).text.toList = '-' :: '-' :: flag.word.toList :=
      String.toList_append
    have hsome : flag.word.toList ≠ [] := by
      cases flag <;> decide
    rw [arguments_word hwritten hsome, word_of_word]
    rfl
  | letters first others =>
    have hwritten : (Argument.letters first others).text.toList =
        '-' :: first.letter :: others.map Flag.letter := String.toList_ofList
    have hletter : first.letter ≠ '-' := by
      cases first <;> decide
    exact arguments_letters hwritten hletter

theorem paths_ne (argument : Argument) : ∀ path ∈ argument.paths, path ≠ "" := by
  cases argument with
  | path written => exact List.forall_mem_singleton.mpr written.text_ne
  | word flag => simp [Argument.paths]
  | letters first others => simp [Argument.paths]

theorem takes_arguments {flags : List Flag} {paths : List String} (arguments : List Argument)
    (hclean : ∀ path ∈ paths, path ≠ "") (hflags : flags.Nodup)
    (hpaths : paths.length ≤ pathLimit) :
    Takes (flags ++ arguments.flatMap Argument.flags) (paths ++ arguments.flatMap Argument.paths)
      (Reading.arguments ⟨flags, paths⟩ (arguments.map Argument.text)) := by
  induction arguments generalizing flags paths with
  | nil =>
    rw [List.flatMap_nil, List.flatMap_nil, List.append_nil, List.append_nil]
    exact .all hflags hpaths
  | cons argument arguments ih =>
    rw [List.map_cons, arguments_cons, List.flatMap_cons, List.flatMap_cons, ← List.append_assoc,
      ← List.append_assoc]
    refine (takes_argument hclean hflags hpaths argument).bind (List.prefix_append _ _)
      (List.prefix_append _ _) fun hflags hpaths => ?_
    refine ih (fun path hpath => ?_) hflags hpaths
    rcases List.mem_append.mp hpath with hpath | hpath
    · exact hclean path hpath
    · exact paths_ne argument path hpath

end Reading

/-! ## What the command line asks for -/

section

variable {flags : List Flag} {paths : List String} {transferList data image : String}

theorem options_three (hclean : ∀ path ∈ [transferList, data, image], path ≠ "") :
    Reading.options ⟨flags, [transferList, data, image]⟩ =
      .ok ⟨transferList, data, image, decide (.table ∈ flags), decide (.yaml ∈ flags),
        decide (.sha1sum ∈ flags), decide (.noProgress ∈ flags)⟩ := by
  rw [Reading.options, Reading.settle_eq hclean]
  rfl

theorem options_of_length (hclean : ∀ path ∈ paths, path ≠ "") (hlength : paths.length ≠ 3) :
    Reading.options ⟨flags, paths⟩ = .error (.usage .missingRequiredArgument) := by
  have hbind (next : Reading → Except Stop Options) :
      (Except.ok ⟨flags, paths⟩ : Except Stop Reading) >>= next = next ⟨flags, paths⟩ := rfl
  rw [Reading.options, Reading.settle_eq hclean, hbind]
  split
  · next hthree =>
    have hpaths : paths = _ := hthree
    exact absurd (congrArg List.length hpaths) hlength
  · rfl

variable {outcome : Except Stop Reading} (h : Reading.Takes flags paths outcome)
  (hclean : ∀ path ∈ paths, path ≠ "")

include h hclean

/-- What was taken asks for a run when it is all, and three paths. -/
theorem options_of_takes (hflags : flags.Nodup) (hpaths : paths = [transferList, data, image]) :
    ∃ options, outcome >>= Reading.options = .ok options ∧
      options.transferList = transferList ∧ options.data = data ∧ options.image = image ∧
      ∀ flag, options.given flag ↔ flag ∈ flags := by
  subst hpaths
  cases h with
  | all _ _ =>
    refine ⟨_, options_three hclean, rfl, rfl, rfl, fun flag => ?_⟩
    cases flag <;> exact decide_eq_true_iff
  | refused error hover => exact absurd ⟨hflags, Nat.le_refl 3⟩ hover

theorem error_of_takes (hnot : ¬ (flags.Nodup ∧ paths.length = 3)) :
    ∃ error, outcome >>= Reading.options = .error (.usage error) := by
  cases h with
  | all hflags _ =>
    exact ⟨_, options_of_length hclean fun hlength => hnot ⟨hflags, hlength⟩⟩
  | refused error _ => exact ⟨error, rfl⟩

end

/-- A command line of paths and flags asks for a run just when no flag is given
twice and there are three paths: the paths are then the transfer list, the data
and the image in the order in which they stand, and the flags are those that are
given, wherever and however that is. In all other cases there is a usage error. -/
theorem ofArguments_any_order (arguments : List Argument) :
    (∀ transferList data image, (arguments.flatMap Argument.flags).Nodup →
      arguments.flatMap Argument.paths = [transferList, data, image] →
        ∃ options, ofArguments (arguments.map Argument.text) = .ok options ∧
          options.transferList = transferList ∧ options.data = data ∧ options.image = image ∧
          ∀ flag, options.given flag ↔ flag ∈ arguments.flatMap Argument.flags) ∧
    (¬ ((arguments.flatMap Argument.flags).Nodup ∧
        (arguments.flatMap Argument.paths).length = 3) →
      ∃ error, ofArguments (arguments.map Argument.text) = .error (.usage error) ∧
        (Stop.usage error).exitCode = 2) := by
  have htakes := Reading.takes_arguments arguments (List.forall_mem_nil _) List.nodup_nil
    (Nat.zero_le Reading.pathLimit)
  rw [List.nil_append, List.nil_append] at htakes
  have hclean : ∀ path ∈ arguments.flatMap Argument.paths, path ≠ "" := fun path hpath => by
    obtain ⟨argument, _, hpath⟩ := List.mem_flatMap.mp hpath
    exact Reading.paths_ne argument path hpath
  refine ⟨fun _ _ _ => options_of_takes htakes hclean, fun hnot => ?_⟩
  obtain ⟨error, herror⟩ := error_of_takes htakes hclean hnot
  exact ⟨error, herror, rfl⟩

/-- Letters that stand together after a path, a word after the paths; the same
flag once more, as a letter, is an error. -/
theorem ofArguments_any_order_mixed :
    ∃ options, ofArguments ["a.list", "-st", "b c", "ü.img", "--no-progress"] = .ok options ∧
      options = ⟨"a.list", "b c", "ü.img", true, false, true, true⟩ ∧
      ∃ error, ofArguments ["a.list", "-st", "b c", "--table", "ü.img"] = .error (.usage error) ∧
        (Stop.usage error).exitCode = 2 := by
  let first : PlainPath := ⟨"a.list", by decide, by decide⟩
  let second : PlainPath := ⟨"b c", by decide, by decide⟩
  let third : PlainPath := ⟨"ü.img", by decide, by decide⟩
  obtain ⟨⟨_, _, _, table, yaml, sha1sum, noProgress⟩, hrun, rfl, rfl, rfl, hgiven⟩ :=
    (ofArguments_any_order [.path first, .letters .sha1sum [.table], .path second, .path third,
      .word .noProgress]).1 "a.list" "b c" "ü.img" (by decide) (by decide)
  have htable : table = true := (hgiven .table).mpr (by decide)
  have hyaml : yaml = false := Bool.eq_false_iff.mpr (mt (hgiven .yaml).mp (by decide))
  have hsha1sum : sha1sum = true := (hgiven .sha1sum).mpr (by decide)
  have hnoProgress : noProgress = true := (hgiven .noProgress).mpr (by decide)
  subst htable hyaml hsha1sum hnoProgress
  exact ⟨_, hrun, rfl, (ofArguments_any_order [.path first, .letters .sha1sum [.table],
    .path second, .word .table, .path third]).2 (by decide)⟩

end Options

end BlockTransfer
