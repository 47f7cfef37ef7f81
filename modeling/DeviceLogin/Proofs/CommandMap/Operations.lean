import Mathlib.Data.Finset.Card
import Mathlib.Data.List.Sort
import DeviceLogin.Proofs.CommandMap.Listing

set_option autoImplicit false

namespace DeviceLogin

namespace Text

theorem units_of_inj (c d : Char) (left right : List Nat) (same : unitsOf c ++ left = unitsOf d ++ right) :
    c = d ∧ left = right := by
  have bound (c : Char) : c.toNat < 0xD800 ∨ 0xDFFF < c.toNat ∧ c.toNat < 0x110000 := c.valid
  have first := bound c
  have second := bound d
  rw [← Char.toNat_inj]
  unfold unitsOf at same
  split at same <;> split at same <;> simp only [List.cons_append, List.nil_append, List.cons.injEq] at same
  · exact same
  · omega
  · omega
  · exact ⟨by omega, same.2.2⟩

theorem units_inj (a b : String) : units a = units b ↔ a = b := by
  refine ⟨fun same => ?_, fun same => congrArg units same⟩
  have chars (left right : List Char) (same : left.flatMap unitsOf = right.flatMap unitsOf) : left = right := by
    have some_unit (c : Char) : unitsOf c ≠ [] := by unfold unitsOf; split <;> simp
    induction left generalizing right with
    | nil => cases right <;> simp_all
    | cons c left ih =>
        cases right with
        | nil => simp_all
        | cons d right =>
            obtain ⟨here, later⟩ := units_of_inj c d _ _ same
            rw [here, ih right later]
  exact String.toList_inj.mp (chars _ _ same)

theorem caseless_antisymm (a b : String) (first : compareCaseless a b ≠ .gt) (second : compareCaseless b a ≠ .gt) :
    sameCaseless a b = true := by
  have notBelow := (caseless_not_gt a b).mp (bne_iff_ne.mpr first)
  have notAbove := (caseless_not_gt b a).mp (bne_iff_ne.mpr second)
  rw [sameCaseless, beq_iff_eq, ← units_inj]
  exact List.le_antisymm notBelow notAbove

end Text

namespace CommandMap

inductive Operation where
  | add (command : RemoteCommand)
  | addAll (commands : List RemoteCommand)
  | size
  | entries
  | lines

inductive Answer where
  | added (new : Bool)
  | count (commands : Nat)
  | listed (commands : List RemoteCommand)
  | written (lines : List String)

def Operation.given : Operation → List RemoteCommand
  | .add command => [command]
  | .addAll commands => commands
  | .size | .entries | .lines => []

def perform (map : CommandMap) : Operation → CommandMap × Answer
  | .add command => ((map.add command).1, .added (map.add command).2)
  | .addAll commands => ((map.addAll commands).1, .count (map.addAll commands).2)
  | .size => (map, .count map.size)
  | .entries => (map, .listed map.entries)
  | .lines => (map, .written map.lines)

def run (map : CommandMap) : List Operation → CommandMap × List Answer
  | [] => (map, [])
  | operation :: rest =>
      let (map, answer) := map.perform operation
      let (map, answers) := map.run rest
      (map, answer :: answers)

def givenBy (operations : List Operation) : List RemoteCommand := operations.flatMap Operation.given

def names (given : List RemoteCommand) : List String := given.map (·.name)

def distinct (given : List RemoteCommand) : Nat := (names given).toFinset.card

def place (given : List RemoteCommand) (name : String) : Nat := (names given).idxOf name

-- A right listing of the given commands.
structure Listed (given listed : List RemoteCommand) : Prop where
  once : ∀ name, (names listed).count name = if name ∈ names given then 1 else 0
  first : ∀ command ∈ listed, given.find? (·.name == command.name) = some command
  sorted : listed.Pairwise fun a b => Text.compareCaseless a.name b.name ≠ .gt
  steady : listed.Pairwise fun a b =>
    Text.sameCaseless a.name b.name = true → place given a.name < place given b.name

def Right (given : List RemoteCommand) : Operation → Answer → Prop
  | .add command, .added new => new = true ↔ command.name ∉ names given
  | .addAll commands, .count grown => distinct (given ++ commands) = distinct given + grown
  | .size, .count size => size = distinct given
  | .entries, .listed listed => Listed given listed
  | .lines, .written lines => ∃ listed, Listed given listed ∧ lines = listed.map line
  | _, _ => False

theorem perform_map (map : CommandMap) (operation : Operation) :
    (map.perform operation).1 = (map.addAll operation.given).1 := by
  cases operation <;> rfl

theorem run_map (map : CommandMap) (operations : List Operation) :
    (map.run operations).1 = (map.addAll (givenBy operations)).1 := by
  induction operations generalizing map with
  | nil => rfl
  | cons operation rest ih =>
      rw [givenBy, List.flatMap_cons, add_all_append, ← perform_map]
      exact ih _

theorem run_append (map : CommandMap) (before after : List Operation) :
    map.run (before ++ after) =
      (((map.run before).1.run after).1, (map.run before).2 ++ ((map.run before).1.run after).2) := by
  induction before generalizing map with
  | nil => rfl
  | cons operation rest ih => simp only [List.cons_append, run, ih]

theorem answers_length (map : CommandMap) (operations : List Operation) :
    (map.run operations).2.length = operations.length := by
  induction operations generalizing map with
  | nil => rfl
  | cons operation rest ih => simpa [run] using ih _

theorem answer_at (before after : List Operation) (operation : Operation) :
    (run {} (before ++ operation :: after)).2[before.length]? =
      some ((ofCommands (givenBy before)).perform operation).2 := by
  rw [run_append, List.getElem?_append_right (by rw [answers_length]), answers_length, Nat.sub_self, run_map]
  rfl

theorem names_of_given (given : List RemoteCommand) : names (firsts given) = Ordered.keys (ofCommands given).commands := by
  rw [← commands_of_given, names, List.map_map]
  rfl

theorem mem_names_firsts (given : List RemoteCommand) (name : String) : name ∈ names (firsts given) ↔ name ∈ names given := by
  constructor
  · intro member
    obtain ⟨command, listed, rfl⟩ := List.mem_map.mp member
    exact List.mem_map_of_mem (List.mem_of_find?_eq_some ((mem_firsts_iff given command).mp listed))
  · intro member
    obtain ⟨command, known, rfl⟩ := List.mem_map.mp member
    obtain ⟨first, found⟩ := Option.isSome_iff_exists.mp
      (List.find?_isSome.mpr ⟨command, known, beq_self_eq_true command.name⟩ :
        (given.find? (·.name == command.name)).isSome)
    have same : first.name = command.name := by simpa using List.find?_some found
    exact List.mem_map.mpr ⟨first, (mem_firsts_iff given first).mpr (same ▸ found), same⟩

theorem has_given (given : List RemoteCommand) (name : String) :
    (ofCommands given).commands.has name = true ↔ name ∈ names given := by
  rw [Ordered.has_iff, ← names_of_given, mem_names_firsts]

theorem firsts_last (given : List RemoteCommand) (command : RemoteCommand) :
    firsts (given ++ [command]) = if command.name ∈ names given then firsts given else firsts given ++ [command] := by
  rw [← commands_of_given, ← commands_of_given, of_commands_append]
  change ((ofCommands given).add command).1.commands.map _ = _
  by_cases known : command.name ∈ names given
  · rw [if_pos known, add_known _ _ ((has_given given command.name).mpr known)]
  · have new : (ofCommands given).commands.has command.name = false := by
      rw [← Bool.not_eq_true, has_given]
      exact known
    rw [if_neg known, add_new _ _ new, List.map_append]
    rfl

theorem place_lt (given : List RemoteCommand) (name : String) (known : name ∈ names given) :
    place given name < given.length := by
  simpa [place, names] using List.idxOf_lt_length_of_mem known

theorem firsts_in_place (given : List RemoteCommand) :
    (firsts given).Pairwise fun a b => place given a.name < place given b.name := by
  induction given using List.reverseRecOn with
  | nil => exact List.Pairwise.nil
  | append_singleton given command ih =>
      have kept (name : String) (known : name ∈ names given) : place (given ++ [command]) name = place given name := by
        rw [place, names, List.map_append]
        exact List.idxOf_append_of_mem known
      have listed (a : RemoteCommand) (member : a ∈ firsts given) : a.name ∈ names given :=
        (mem_names_firsts given a.name).mp (List.mem_map_of_mem member)
      have before : (firsts given).Pairwise fun a b =>
          place (given ++ [command]) a.name < place (given ++ [command]) b.name := by
        refine ih.imp_of_mem fun {a b} first second less => ?_
        rw [kept _ (listed a first), kept _ (listed b second)]
        exact less
      rw [firsts_last]
      split
      case isTrue => exact before
      case isFalse new =>
          refine List.pairwise_append.mpr ⟨before, List.pairwise_singleton _ _, fun a member b last => ?_⟩
          have here : place (given ++ [command]) command.name = given.length := by
            rw [place, names, List.map_append]
            exact (List.idxOf_append_of_notMem new).trans (by simp [names])
          rw [List.mem_singleton.mp last, here, kept _ (listed a member)]
          exact place_lt given a.name (listed a member)

theorem names_firsts_nodup (given : List RemoteCommand) : (names (firsts given)).Nodup :=
  List.pairwise_map.mpr ((firsts_in_place given).imp fun less same => Nat.ne_of_lt less (congrArg (place given) same))

theorem size_distinct (given : List RemoteCommand) : (ofCommands given).size = distinct given := by
  have same : (names given).toFinset = (names (firsts given)).toFinset := by
    ext name
    rw [List.mem_toFinset, List.mem_toFinset, mem_names_firsts]
  rw [distinct, same, List.toFinset_card_of_nodup (names_firsts_nodup given), names_of_given, Ordered.keys,
    List.length_map, size]

theorem listed_entries (given : List RemoteCommand) : Listed given (ofCommands given).entries := by
  obtain ⟨perm, ordered, stable⟩ := listing_entries given
  refine ⟨fun name => ?_, fun command member => ?_, ?_, ?_⟩
  · have same : (names (ofCommands given).entries).Perm (names (firsts given)) := perm.map _
    rw [same.count_eq, (names_firsts_nodup given).count]
    simp only [mem_names_firsts]
  · exact (mem_firsts_iff given command).mp (perm.subset member)
  · exact ordered.imp fun notBelow => by simpa using (Text.caseless_not_gt _ _).mpr notBelow
  · refine List.pairwise_iff_forall_sublist.mpr fun {a b} pair same => ?_
    have level : rank b = rank a := by
      rw [rank, rank, Text.units_inj]
      exact (beq_iff_eq.mp same).symm
    -- Sorting keeps the order of commands with one rank.
    have kept : [a, b].Sublist (firsts given) := by
      have filtered := pair.filter (rank · == rank a)
      rw [stable, List.filter_eq_self.mpr (by simp [level])] at filtered
      exact filtered.trans List.filter_sublist
    exact List.pairwise_iff_forall_sublist.mp (firsts_in_place given) kept

theorem add_size (map : CommandMap) (command : RemoteCommand) :
    (map.add command).1.size = map.size + if (map.add command).2 then 1 else 0 := by
  cases known : map.commands.has command.name with
  | true => simp [add, known]
  | false => rw [add_new map command known]; simp [add, known, size]

theorem add_all_size (map : CommandMap) (commands : List RemoteCommand) :
    (map.addAll commands).1.size = map.size + (map.addAll commands).2 := by
  induction commands generalizing map with
  | nil => rfl
  | cons command rest ih =>
      have counted : (map.addAll (command :: rest)).2 = if (map.add command).2 then
          ((map.add command).1.addAll rest).2 + 1 else ((map.add command).1.addAll rest).2 := rfl
      rw [add_all_cons, ih, add_size, counted]
      split <;> omega

theorem perform_right (given : List RemoteCommand) (operation : Operation) :
    Right given operation ((ofCommands given).perform operation).2 := by
  cases operation with
  | add command =>
      change ((ofCommands given).add command).2 = true ↔ _
      rw [← has_given]
      cases known : (ofCommands given).commands.has command.name <;> simp [add, known]
  | addAll commands =>
      change distinct (given ++ commands) = distinct given + ((ofCommands given).addAll commands).2
      rw [← size_distinct, ← size_distinct, of_commands_append, add_all_size]
  | size => exact size_distinct given
  | entries => exact listed_entries given
  | lines => exact ⟨(ofCommands given).entries, listed_entries given, rfl⟩

theorem run_reading (before after : List Operation) (operation : Operation) (reads : operation.given = []) :
    ∃ map earlier answer later, earlier.length = before.length ∧
      run {} (before ++ after) = (map, earlier ++ later) ∧
      run {} (before ++ operation :: after) = (map, earlier ++ answer :: later) := by
  have unchanged : ((run {} before).1.perform operation).1 = (run {} before).1 := by
    rw [perform_map, reads]
    rfl
  refine ⟨_, _, ((run {} before).1.perform operation).2, _, answers_length {} before, run_append {} before after, ?_⟩
  rw [run_append]
  simp only [run, unchanged]

theorem entries_perm (given : List RemoteCommand) : (ofCommands given).entries.Perm (firsts given) :=
  (listing_entries given).firsts

theorem mem_commands_iff (given : List RemoteCommand) (command : RemoteCommand) :
    entryOf command ∈ (ofCommands given).commands ↔ command ∈ (ofCommands given).entries := by
  rw [(entries_perm given).mem_iff, ← commands_of_given, List.mem_map]
  refine ⟨fun known => ⟨entryOf command, known, rfl⟩, ?_⟩
  rintro ⟨entry, known, rfl⟩
  exact known

theorem mem_keys_iff (given : List RemoteCommand) (name : String) :
    name ∈ Ordered.keys (ofCommands given).commands ↔ name ∈ names given := by
  rw [← Ordered.has_iff, has_given]

theorem same_entries (one two : List RemoteCommand)
    (same : ∀ entry, entry ∈ (ofCommands one).commands ↔ entry ∈ (ofCommands two).commands)
    (apart : ∀ a ∈ names one, ∀ b ∈ names one, Text.sameCaseless a b = true → a = b) :
    (ofCommands one).entries = (ofCommands two).entries := by
  have nodup (given : List RemoteCommand) : (ofCommands given).entries.Nodup :=
    (entries_perm given).nodup_iff.mpr (List.Nodup.of_map _ (names_firsts_nodup given))
  have perm : (ofCommands one).entries.Perm (ofCommands two).entries :=
    (List.perm_ext_iff_of_nodup (nodup one) (nodup two)).mpr fun command => by
      rw [← mem_commands_iff, ← mem_commands_iff, same]
  have listed := listed_entries one
  refine List.Perm.eq_of_pairwise (fun a b first second notAbove notBelow => ?_) listed.sorted
    (listed_entries two).sorted perm
  have foundA := listed.first a first
  have foundB := listed.first b (perm.symm.subset second)
  have known (c : RemoteCommand) (found : one.find? (·.name == c.name) = some c) : c.name ∈ names one :=
    List.mem_map_of_mem (List.mem_of_find?_eq_some found)
  have name : a.name = b.name :=
    apart _ (known a foundA) _ (known b foundB) (Text.caseless_antisymm _ _ notAbove notBelow)
  rw [name, foundB] at foundA
  exact (Option.some.inj foundA).symm

-- Over any run of operations on a new map, every operation gives the right answer for the commands given before
-- it; operations that read can be left out without a change to the map or to the other answers; and two runs that
-- end with the same commands, no two of them with names that differ in case only, write the same lines.
theorem runs_as_given :
    (∀ before operation after, ∃ answer, (run {} (before ++ operation :: after)).2[before.length]? = some answer ∧
      Right (givenBy before) operation answer) ∧
    (∀ before operation after, operation.given = [] →
      ∃ map earlier answer later, earlier.length = before.length ∧
        run {} (before ++ after) = (map, earlier ++ later) ∧
        run {} (before ++ operation :: after) = (map, earlier ++ answer :: later)) ∧
    (∀ one two, (∀ entry, entry ∈ (run {} one).1.commands ↔ entry ∈ (run {} two).1.commands) →
      (∀ a ∈ (run {} one).1.commands.keys, ∀ b ∈ (run {} one).1.commands.keys, Text.sameCaseless a b = true → a = b) →
      (run {} one).1.lines = (run {} two).1.lines) := by
  refine ⟨fun before operation after => ?_, fun before operation after reads => run_reading before after operation reads,
    fun one two same apart => ?_⟩
  · exact ⟨_, answer_at before after operation, perform_right (givenBy before) operation⟩
  · rw [run_map, run_map] at *
    have names_apart : ∀ a ∈ names (givenBy one), ∀ b ∈ names (givenBy one), Text.sameCaseless a b = true → a = b :=
      fun a first b second =>
        apart a ((mem_keys_iff (givenBy one) a).mpr first) b ((mem_keys_iff (givenBy one) b).mpr second)
    exact congrArg (List.map line) (same_entries (givenBy one) (givenBy two) same names_apart)

end CommandMap

end DeviceLogin
