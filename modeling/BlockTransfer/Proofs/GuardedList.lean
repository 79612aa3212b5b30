/-
BlockTransfer.Proofs.GuardedList — transfer lists with every index and every
difference guarded.

The functions here read, count and tabulate as the plain ones do, but on bare
pairs of numbers, and they take nothing for granted: where the program relies on
a token being there, or on a range not ending before it starts, a guarded
function FAULTS if that is not so. A fault is no error of the program; it is a
result that is missing.

`Agrees` says that guarded reading has the outcome of plain reading, and so no
fault. It has one rule for sequences and holds of each reader in turn, up to
`ofText_agrees`; block counts and tables have no fault on the pairs of a set
(`blockCount_pairs`, `rows_ofList`).
-/
import BlockTransfer.Proofs.ListText
import BlockTransfer.TransferList.Table

namespace BlockTransfer.Guarded

/-! ## Guarded operations -/

/-- A number, if it is a word. -/
def word? (n : Nat) : Option Nat :=
  if n < wordLimit then some n else none

/-- The end of a pair less its start, which must not be below zero. -/
def length? (pair : Nat × Nat) : Option Nat :=
  if pair.1 ≤ pair.2 then some (pair.2 - pair.1) else none

/-- The first so many values, which must be there. -/
def slice? {α : Type} (values : List α) (count : Nat) : Option (List α) :=
  if count ≤ values.length then some (values.take count) else none

/-- Two values at a time; one that is left over is dropped. -/
def twos {α : Type} (values : List α) : List (List α) :=
  if values.length < 2 then [] else values.take 2 :: twos (values.drop 2)
termination_by values.length
decreasing_by
  rw [List.length_drop]
  omega

/-! ## Guarded reading -/

/-- Reading that may fail, and may fault. -/
abbrev Parser := OptionT (Except TransferList.Error)

section

variable {α β γ δ : Type}

/-- What is there, or else a fault. -/
def present {m : Type → Type} [Monad m] (value : Option α) : OptionT m α :=
  OptionT.mk (pure value)

/-- Plain reading, without what it reports. -/
def reading (plain : Logged TransferList.Error α) : Parser α :=
  OptionT.lift plain.result

/-- Fails with an error of the program. -/
def refuse (error : TransferList.Error) : Parser α :=
  OptionT.lift (.error error)

/-- Reads the two ends of a range. -/
def readPair (tokens : List (List Char)) : Parser (Nat × Nat) := do
  let start ← reading (RangeSet.readInteger (← present tokens[0]?))
  let stop ← reading (RangeSet.readInteger (← present tokens[1]?))
  if start.val ≤ stop.val then pure (start.val, stop.val)
  else refuse (.invertedRange start stop)

/-- Reads a range field. -/
def ofField (field : String) : Parser (List (Nat × Nat)) := do
  let tokens := Text.splitAt ',' field.toList
  let count ← reading (RangeSet.readInteger (tokens.headD []))
  let values := tokens.tail
  if count.val % 2 ≠ 0 then refuse (.oddCount count)
  else if values.length < count.val then refuse (.tooFewValues count values.length)
  else (twos (← present (slice? values count.val))).mapM readPair

/-- How many blocks the pairs hold. -/
def blockCount (pairs : List (Nat × Nat)) : Option Nat :=
  pairs.foldlM (fun sum pair => do
    let length ← length? pair
    pure (saturate (sum + length))) 0

/-- Reads the range field of a command. Its blocks are counted to report them, and
its numbers are counted to write them out. -/
def readField (command : Command) (line : Nat) (rest : List Char) : Parser (List (Nat × Nat)) :=
  match Text.nextWord? rest with
  | none => refuse (.missingRangeField command line)
  | some (field, _) => do
    let pairs ← ofField (String.ofList field)
    let _ ← present (blockCount pairs)
    guard (2 * pairs.length < wordLimit)
    pure pairs

/-- The pairs of the commands met so far. -/
abbrev Slots := Command → Option (List (Nat × Nat))

/-- Reads one line after the header. -/
def readLine (slots : Slots) (line : Nat) (written : List Char) : Parser Slots :=
  match TransferList.Command.ofLine? written with
  | none => pure slots
  | some (command, rest) =>
    match slots command with
    | some _ => pure slots
    | none => do
      let pairs ← readField command line rest
      pure fun other => if other = command then some pairs else slots other

/-- Reads lines of which the first has the given number. -/
def readLines (slots : Slots) (line : Nat) : List (List Char) → Parser Slots
  | [] => pure slots
  | written :: rest => do
    let slots ← readLine slots line written
    readLines slots (line + 1) rest

/-- Reads the commands of a transfer list, given all of its lines. -/
def ofLines (lines : List (List Char)) : Parser (Command → List (Nat × Nat)) := do
  let slots ← readLines (fun _ => none) 2 (lines.drop 2)
  pure fun command => (slots command).getD []

/-- A transfer list with bare pairs. -/
structure BareList where
  version : Fin TransferList.versionLimit
  totalBlocks : Fin wordLimit
  pairs : Command → List (Nat × Nat)

/-- A transfer list without what is known of its ranges. -/
def BareList.ofList (list : TransferList) : BareList :=
  ⟨list.version, list.totalBlocks, fun command => (list.setOf command).pairs⟩

/-- Reads a transfer list. -/
def ofText (text : String) : Parser BareList := do
  let lines := Text.lines text.toList
  let header ← reading (TransferList.Header.ofLines lines)
  let pairs ← ofLines lines
  pure ⟨header.version, header.totalBlocks, pairs⟩

/-! ## Sequences of guarded work -/

section

variable {m : Type → Type} [Monad m]

/-- A sequence faults where its first piece does. -/
theorem run_bind (guarded : OptionT m α) (next : α → OptionT m β) :
    (guarded >>= next).run =
      guarded.run >>= fun value => value.elim (pure none) fun value => (next value).run := by
  rw [OptionT.run_bind]
  exact bind_congr fun value => by cases value <;> rfl

variable [LawfulMonad m]

theorem present_bind (value : α) (next : α → OptionT m β) :
    present (some value) >>= next = next value := by
  refine OptionT.ext ?_
  rw [run_bind]
  exact pure_bind _ _

theorem guard_bind {condition : Prop} [Decidable condition] (h : condition)
    (next : Unit → OptionT m β) : guard condition >>= next = next () := by
  rw [guard, if_pos h, pure_bind]

end

/-! ## Agreement with plain reading -/

/-- Guarded reading has no fault: it fails where plain reading fails, and has its
value, as `view` shows it, where that has one. -/
def Agrees (view : α → β) (guarded : Parser β) (plain : Logged TransferList.Error α) : Prop :=
  guarded.run = plain.result.map fun value => some (view value)

variable {view : α → β} {guarded : Parser β} {plain : Logged TransferList.Error α}

theorem Agrees.pure (view : α → β) (value : α) : Agrees view (pure (view value)) (pure value) := rfl

theorem Agrees.fail (error : TransferList.Error) (topic : Topic) (message : String) :
    Agrees view (refuse error) (.fail error topic message) := rfl

theorem agrees_reading (plain : Logged TransferList.Error α) : Agrees id (reading plain) plain := by
  unfold Agrees reading
  cases plain.result <;> rfl

theorem Agrees.bind {shown : γ → δ} {next : β → Parser δ}
    {plainNext : α → Logged TransferList.Error γ} (h : Agrees view guarded plain)
    (hnext : ∀ value, plain.result = .ok value →
      Agrees shown (next (view value)) (plainNext value)) :
    Agrees shown (guarded >>= next) (plain >>= plainNext) := by
  unfold Agrees at h hnext ⊢
  rw [run_bind, h, Logged.result_bind]
  cases hresult : plain.result with
  | error error => rfl
  | ok value => exact hnext value hresult

theorem Agrees.report_bind {shown : γ → δ} {guarded : Parser δ} {level : Level} {topic : Topic}
    {message : String} {plainNext : Unit → Logged TransferList.Error γ}
    (h : Agrees shown guarded (plainNext ())) :
    Agrees shown guarded (Logged.report level topic message >>= plainNext) := by
  unfold Agrees at h ⊢
  rw [h, Logged.result_bind]
  rfl

end

/-! ## Range fields -/

theorem twos_cons {α : Type} (first second : α) (values : List α) :
    twos (first :: second :: values) = [first, second] :: twos values := by
  rw [twos, if_neg (by simp)]
  rfl

theorem twos_of_length_lt {α : Type} {values : List α} (h : values.length < 2) :
    twos values = [] := by
  rw [twos, if_pos h]

/-- A range as a bare pair of its ends. -/
def bare (range : BlockRange) : Nat × Nat :=
  (range.start, range.stop)

theorem length?_bare (range : BlockRange) : length? (bare range) = some range.length :=
  if_pos range.ordered

theorem readPair_agrees (field : String) (first second : List Char) :
    Agrees bare (readPair [first, second]) (RangeSet.readRange field first second) := by
  have hindex (token : List Char) (next : List Char → Parser (Nat × Nat)) :
      present (some token) >>= next = next token := present_bind token next
  unfold readPair RangeSet.readRange
  rw [List.getElem?_cons_zero, hindex]
  refine (agrees_reading _).bind fun start _ => ?_
  rw [List.getElem?_cons_succ, List.getElem?_cons_zero, hindex]
  refine (agrees_reading _).bind fun stop _ => ?_
  by_cases hordered : start.val ≤ stop.val
  · rw [dif_pos hordered]
    exact if_pos hordered ▸ .pure bare ⟨start, stop, hordered, stop.isLt⟩
  · rw [dif_neg hordered]
    exact if_neg hordered ▸ .fail _ _ _

/-- Tokens that are taken two by two are there. -/
theorem mapM_readPair_agrees (field : String) (tokens : List (List Char)) :
    Agrees (List.map bare) ((twos tokens).mapM readPair) (RangeSet.readRanges field tokens) := by
  fun_induction RangeSet.readRanges field tokens with
  | case1 first second tokens ih =>
    rw [twos_cons, List.mapM_cons]
    refine (readPair_agrees field first second).bind fun range _ => ?_
    exact ih.bind fun ranges _ => .pure (List.map bare) (range :: ranges)
  | case2 tokens hfew =>
    have hlength : tokens.length < 2 := by
      match tokens with
      | [] => simp
      | [_] => simp
      | first :: second :: rest => exact absurd rfl (hfew first second rest)
    rw [twos_of_length_lt hlength, List.mapM_nil]
    exact .pure (List.map bare) []

theorem ofField_agrees (field : String) :
    Agrees RangeSet.pairs (ofField field) (RangeSet.ofField field) := by
  unfold ofField RangeSet.ofField
  refine (agrees_reading _).bind fun count _ => ?_
  dsimp only [id]
  by_cases hodd : count.val % 2 ≠ 0
  · rw [if_pos hodd, if_pos hodd]
    exact .fail _ _ _
  · rw [if_neg hodd, if_neg hodd]
    by_cases hfew : (Text.splitAt ',' field.toList).tail.length < count.val
    · rw [if_pos hfew, if_pos hfew]
      exact .fail _ _ _
    · rw [if_neg hfew, if_neg hfew, slice?, if_pos (Nat.not_lt.mp hfew), present_bind,
        ← bind_pure (List.mapM _ _)]
      exact (mapM_readPair_agrees _ _).bind fun ranges _ => .pure RangeSet.pairs ⟨ranges⟩

/-! ## Transfer lists -/

theorem blockCount_pairs (set : RangeSet) : blockCount set.pairs = some set.blockCount := by
  have hfold (sum : Nat) (ranges : List BlockRange) :
      (ranges.map bare).foldlM (fun sum pair => do
          let length ← length? pair
          pure (saturate (sum + length))) sum =
        some (ranges.foldl (fun sum range => saturate (sum + range.length)) sum) := by
    induction ranges generalizing sum with
    | nil => rfl
    | cons range ranges ih =>
      rw [List.map_cons, List.foldlM_cons, length?_bare]
      exact ih (saturate (sum + range.length))
  exact hfold 0 set.ranges

example : blockCount [(0, 3), (2, 1)] = none := by decide

theorem readField_agrees (command : Command) (line : Nat) (rest : List Char) :
    Agrees RangeSet.pairs (readField command line rest)
      (TransferList.readField command line rest) := by
  unfold readField TransferList.readField
  cases Text.nextWord? rest with
  | none => exact .fail _ _ _
  | some word =>
    refine (ofField_agrees _).bind fun set hset => ?_
    have hnumbers : 2 * set.pairs.length < wordLimit := by
      rw [RangeSet.pairs, List.length_map]
      exact RangeSet.two_mul_count_lt hset
    rw [blockCount_pairs, present_bind, guard_bind hnumbers]
    exact .report_bind (.pure RangeSet.pairs set)

/-- The slots that are filled, as pairs. -/
def slotsOf (slots : TransferList.Slots) : Slots :=
  fun command => (slots.get? command).map RangeSet.pairs

theorem readLine_agrees (slots : TransferList.Slots) (line : Nat) (written : List Char) :
    Agrees slotsOf (readLine (slotsOf slots) line written)
      (TransferList.readLine slots line written) := by
  unfold readLine TransferList.readLine
  cases TransferList.Command.ofLine? written with
  | none => exact .report_bind (.pure slotsOf slots)
  | some found =>
    obtain ⟨command, rest⟩ := found
    cases hslot : slots.get? command with
    | some set =>
      simp only [slotsOf, hslot]
      exact .report_bind (.pure slotsOf slots)
    | none =>
      simp only [slotsOf, hslot]
      refine (readField_agrees command line rest).bind fun set _ => ?_
      have hput : slotsOf (slots.put set command) =
          fun other => if other = command then some set.pairs else slotsOf slots other := by
        funext other
        rw [slotsOf, TransferList.Slots.get?_put]
        split <;> rfl
      exact hput ▸ .pure slotsOf (slots.put set command)

theorem readLines_agrees (slots : TransferList.Slots) (line : Nat) (lines : List (List Char)) :
    Agrees slotsOf (readLines (slotsOf slots) line lines)
      (TransferList.readLines slots line lines) := by
  induction lines generalizing slots line with
  | nil => exact .pure slotsOf slots
  | cons written rest ih =>
    exact (readLine_agrees slots line written).bind fun slots _ => ih slots (line + 1)

/-- The sets of commands, as pairs. -/
def pairsOf (commands : TransferList.Commands) : Command → List (Nat × Nat)
  | .erase => commands.eraseSet.pairs
  | .new => commands.newSet.pairs

theorem ofLines_agrees (lines : List (List Char)) :
    Agrees pairsOf (ofLines lines) (TransferList.Commands.ofLines lines) := by
  have hempty : slotsOf .empty = fun _ => none := by
    funext command
    cases command <;> rfl
  have hsets (slots : TransferList.Slots) :
      pairsOf ⟨slots.erase?.getD .empty, slots.new?.getD .empty⟩ =
        fun command => (slotsOf slots command).getD [] := by
    funext command
    obtain ⟨erase?, new?⟩ := slots
    cases command with
    | erase => cases erase? <;> rfl
    | new => cases new? <;> rfl
  unfold ofLines TransferList.Commands.ofLines
  rw [← hempty]
  exact (readLines_agrees _ _ _).bind fun slots _ => hsets slots ▸ .pure pairsOf _

/-- Every text is read without a fault, and with the outcome of plain reading. -/
theorem ofText_agrees (text : String) :
    Agrees BareList.ofList (ofText text) (TransferList.ofText text) := by
  have hlist (header : TransferList.Header) (commands : TransferList.Commands) :
      BareList.ofList
          ⟨header.version, header.totalBlocks, commands.eraseSet, commands.newSet⟩ =
        ⟨header.version, header.totalBlocks, pairsOf commands⟩ := by
    refine congrArg (BareList.mk _ _) ?_
    funext command
    cases command <;> rfl
  unfold ofText TransferList.ofText
  refine (agrees_reading _).bind fun header _ => ?_
  exact (ofLines_agrees _).bind fun commands _ => hlist header commands ▸ .pure BareList.ofList _

/-! ## Tables -/

/-- The texts of the line for one pair. -/
def cells (command : Command) (id : Nat) (pair : Nat × Nat) : Option (List String) := do
  let length ← length? pair
  let offset := (word? (blockSize * pair.1)).elim "-" fun offset => "0x" ++ Text.hexadecimal offset
  let size := (word? (blockSize * length)).elim "-" ByteSize.text
  pure [command.word, s!"{id}", s!"{pair.1}", s!"{pair.2}", s!"{length}", offset, size]

/-- The texts of the lines for one command. -/
def setRows (command : Command) (pairs : List (Nat × Nat)) : Option (List (List String)) :=
  pairs.zipIdx.mapM fun (pair, id) => cells command id pair

/-- The texts of all lines. -/
def rows (list : BareList) : Option (List (List String)) := do
  let erase ← setRows .erase (list.pairs .erase)
  let new ← setRows .new (list.pairs .new)
  pure (erase ++ new)

theorem cells_bare (command : Command) (id : Nat) (range : BlockRange) :
    cells command id (bare range) = some (TransferList.Table.cells command id range) := by
  have helim (n : Nat) (text : Nat → String) :
      (word? n).elim "-" text = if n < wordLimit then text n else "-" := by
    unfold word?
    split <;> rfl
  unfold cells
  rw [length?_bare]
  dsimp only [bind, Option.bind, pure]
  rw [helim, helim]
  rfl

theorem setRows_pairs (command : Command) (set : RangeSet) :
    setRows command set.pairs = some (TransferList.Table.setRows command set) := by
  have hcells (row : BlockRange × Nat) :
      cells command row.2 (bare row.1) = pure (TransferList.Table.cells command row.2 row.1) :=
    cells_bare command row.2 row.1
  have hpairs : set.pairs.zipIdx = set.ranges.zipIdx.map (Prod.map bare id) := List.zipIdx_map
  have hrows : setRows command set.pairs =
      set.ranges.zipIdx.mapM fun row => cells command row.2 (bare row.1) := by
    rw [setRows, hpairs, List.mapM_map]
    rfl
  rw [hrows, TransferList.Table.setRows, List.mapIdx_eq_zipIdx_map]
  simp only [hcells]
  exact List.mapM_pure

/-- The table of a list has no fault. -/
theorem rows_ofList (list : TransferList) :
    rows (.ofList list) = some (TransferList.Table.rows list) := by
  have hrows (command : Command) :
      setRows command ((BareList.ofList list).pairs command) =
        some (TransferList.Table.setRows command (list.setOf command)) :=
    setRows_pairs command (list.setOf command)
  unfold rows
  rw [hrows, hrows]
  rfl

end BlockTransfer.Guarded
