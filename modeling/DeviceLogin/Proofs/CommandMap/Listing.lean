import DeviceLogin.CommandMap.Basic
import DeviceLogin.Proofs.MemberOrder

set_option autoImplicit false

namespace DeviceLogin

namespace Text

theorem compare_units_gt (a b : List Nat) : compareUnits a b = .gt ↔ List.Lex (· < ·) b a := by
  induction a generalizing b with
  | nil => cases b <;> simp [compareUnits]
  | cons x left ih =>
      cases b with
      | nil => simp [compareUnits]
      | cons y right =>
          rw [compareUnits, List.cons_lex_cons_iff, ← ih]
          by_cases less : x < y
          · have apart : ¬ (y < x ∨ y = x ∧ compareUnits left right = .gt) := by omega
            simp [less, apart]
          · by_cases more : y < x
            · simp [less, more]
            · have same : y = x := by omega
              simp [same]

theorem caseless_not_gt (a b : String) :
    (compareCaseless a b != .gt) = true ↔ ¬ List.Lex (· < ·) (units (lowercase b)) (units (lowercase a)) := by
  rw [compareCaseless, bne_iff_ne, ne_eq, compare_units_gt]

theorem caseless_total (a b : String) : (compareCaseless a b != .gt || compareCaseless b a != .gt) = true := by
  rw [Bool.or_eq_true, caseless_not_gt, caseless_not_gt]
  exact List.le_total (units (lowercase a)) (units (lowercase b))

theorem caseless_trans (a b c : String) (first : (compareCaseless a b != .gt) = true)
    (second : (compareCaseless b c != .gt) = true) : (compareCaseless a c != .gt) = true := by
  rw [caseless_not_gt] at *
  exact @List.le_trans Nat _ _ _ _ (units (lowercase a)) (units (lowercase b)) (units (lowercase c)) first second

end Text

namespace CommandMap

def rank (command : RemoteCommand) : List Nat := Text.units (Text.lowercase command.name)

def firsts (given : List RemoteCommand) : List RemoteCommand := given.eraseDupsBy fun a b => a.name == b.name

-- The listing of the given commands. Of commands with one rank the order is that of their giving.
structure Listing (given listed : List RemoteCommand) : Prop where
  firsts : listed.Perm (firsts given)
  ordered : listed.Pairwise fun a b => ¬ List.Lex (· < ·) (rank b) (rank a)
  stable : ∀ place, listed.filter (rank · == place) = (CommandMap.firsts given).filter (rank · == place)

theorem firsts_cons (command : RemoteCommand) (rest : List RemoteCommand) :
    firsts (command :: rest) = command :: firsts (rest.filter fun other => !(other.name == command.name)) := by
  rw [firsts, List.eraseDupsBy_cons, firsts]
  congr
  funext other
  cases other.name == command.name <;> rfl

theorem firsts_nil_iff (given : List RemoteCommand) : firsts given = [] ↔ given = [] := by
  cases given with
  | nil => exact Iff.rfl
  | cons command rest => simp [firsts_cons]

def entryOf (command : RemoteCommand) : String × String := (command.name, command.value)

def unknown (map : CommandMap) (given : List RemoteCommand) : List RemoteCommand :=
  given.filter fun command => !map.commands.has command.name

theorem add_known (map : CommandMap) (command : RemoteCommand) (known : map.commands.has command.name = true) :
    (map.add command).1 = map := by
  rw [add, if_pos known]

theorem add_new (map : CommandMap) (command : RemoteCommand) (new : map.commands.has command.name = false) :
    (map.add command).1 = ⟨map.commands ++ [entryOf command]⟩ := by
  have absent : command.name ∉ Ordered.keys map.commands := by
    rw [← Ordered.has_iff, new]
    exact Bool.false_ne_true
  rw [add, if_neg (by simp [new]), Ordered.put_new _ _ _ absent]
  rfl

theorem add_all_cons (map : CommandMap) (command : RemoteCommand) (rest : List RemoteCommand) :
    (map.addAll (command :: rest)).1 = ((map.add command).1.addAll rest).1 := rfl

theorem add_all_append (map : CommandMap) (given more : List RemoteCommand) :
    (map.addAll (given ++ more)).1 = ((map.addAll given).1.addAll more).1 := by
  induction given generalizing map with
  | nil => rfl
  | cons command rest ih => rw [List.cons_append, add_all_cons, ih, add_all_cons]

theorem has_added (commands : Ordered String) (command : RemoteCommand) (name : String) :
    Ordered.has (commands ++ [entryOf command]) name = (commands.has name || name == command.name) := by
  rw [Bool.eq_iff_iff, Bool.or_eq_true, Ordered.has_iff, Ordered.has_iff]
  simp [Ordered.keys, entryOf]

theorem commands_of_all (map : CommandMap) (given : List RemoteCommand) :
    (map.addAll given).1.commands = map.commands ++ (firsts (unknown map given)).map entryOf := by
  induction given generalizing map with
  | nil => simp [addAll, unknown, firsts]
  | cons command rest ih =>
      rw [add_all_cons, ih]
      cases known : map.commands.has command.name with
      | true =>
          have same : unknown map (command :: rest) = unknown map rest := by simp [unknown, known]
          rw [add_known map command known, same]
      | false =>
          have here : unknown map (command :: rest) = command :: unknown map rest := by simp [unknown, known]
          have later : unknown ⟨map.commands ++ [entryOf command]⟩ rest =
              (unknown map rest).filter fun other => !(other.name == command.name) := by
            simp only [unknown, has_added, List.filter_filter, Bool.not_or, Bool.and_comm]
          rw [add_new map command known, here, firsts_cons, later]
          simp

def ofCommands (given : List RemoteCommand) : CommandMap := (({} : CommandMap).addAll given).1

theorem of_commands_append (given more : List RemoteCommand) :
    ofCommands (given ++ more) = ((ofCommands given).addAll more).1 :=
  add_all_append {} given more

theorem commands_of_given (given : List RemoteCommand) :
    (ofCommands given).commands.map (fun entry => (⟨entry.1, entry.2⟩ : RemoteCommand)) = firsts given := by
  have new : unknown {} given = given := List.filter_eq_self.mpr fun _ _ => rfl
  rw [ofCommands, commands_of_all, new]
  simp [entryOf, Function.comp_def]

theorem size_of_given (given : List RemoteCommand) : (ofCommands given).size = 0 ↔ given = [] := by
  rw [← firsts_nil_iff, ← commands_of_given, List.map_eq_nil_iff, size, List.length_eq_zero_iff]

theorem listing_entries (given : List RemoteCommand) : Listing given (ofCommands given).entries := by
  let before (a b : RemoteCommand) : Bool := Text.compareCaseless a.name b.name != .gt
  have trans (a b c : RemoteCommand) : before a b → before b c → before a c := Text.caseless_trans _ _ _
  have total (a b : RemoteCommand) : before a b || before b a := Text.caseless_total _ _
  have listed : (ofCommands given).entries = (firsts given).mergeSort before := by
    rw [entries, commands_of_given]
  have perm : ((firsts given).mergeSort before).Perm (firsts given) := List.mergeSort_perm _ _
  rw [listed]
  refine ⟨perm, ?_, fun place => ?_⟩
  · exact (List.pairwise_mergeSort trans total _).imp fun ordered => (Text.caseless_not_gt _ _).mp ordered
  · -- Commands of one rank are in order already, so sorting keeps them as they stand.
    have level : ((firsts given).filter (rank · == place)).Pairwise fun a b => before a b := by
      refine List.pairwise_of_forall_mem_list fun a first b second => (Text.caseless_not_gt _ _).mpr ?_
      have one : rank a = place := by simpa using (List.mem_filter.mp first).2
      have two : rank b = place := by simpa using (List.mem_filter.mp second).2
      change ¬ List.Lex (· < ·) (rank b) (rank a)
      rw [one, two]
      exact List.lt_irrefl place
    have kept := (List.sublist_mergeSort trans total level List.filter_sublist).filter (rank · == place)
    rw [List.filter_filter] at kept
    simp only [Bool.and_self] at kept
    exact (kept.eq_of_length (perm.filter _).length_eq.symm).symm

theorem mem_of_levels (one two : List RemoteCommand)
    (levels : ∀ place, one.filter (rank · == place) = two.filter (rank · == place)) (command : RemoteCommand)
    (member : command ∈ one) : command ∈ two := by
  have level : command ∈ one.filter (rank · == rank command) := by simpa using member
  rw [levels] at level
  exact (List.mem_filter.mp level).1

theorem eq_of_levels (one two : List RemoteCommand)
    (first : one.Pairwise fun a b => ¬ List.Lex (· < ·) (rank b) (rank a))
    (second : two.Pairwise fun a b => ¬ List.Lex (· < ·) (rank b) (rank a))
    (levels : ∀ place, one.filter (rank · == place) = two.filter (rank · == place)) : one = two := by
  induction one generalizing two with
  | nil =>
      refine (List.eq_nil_iff_forall_not_mem.mpr fun command member => ?_).symm
      exact List.not_mem_nil (mem_of_levels two [] (fun place => (levels place).symm) command member)
  | cons a left ih =>
      cases two with
      | nil => exact absurd (mem_of_levels _ _ levels a List.mem_cons_self) List.not_mem_nil
      | cons b right =>
          obtain ⟨lowest, others⟩ := List.pairwise_cons.mp first
          obtain ⟨least, rest⟩ := List.pairwise_cons.mp second
          have above : ¬ List.Lex (· < ·) (rank a) (rank b) := by
            rcases List.mem_cons.mp (mem_of_levels _ _ levels a List.mem_cons_self) with same | later
            · exact same ▸ List.lt_irrefl (rank a)
            · exact least a later
          have below : ¬ List.Lex (· < ·) (rank b) (rank a) := by
            rcases List.mem_cons.mp (mem_of_levels _ _ (fun place => (levels place).symm) b List.mem_cons_self) with same | later
            · exact same ▸ List.lt_irrefl (rank b)
            · exact lowest b later
          have level : rank a = rank b := List.le_antisymm below above
          obtain ⟨same, -⟩ : a = b ∧ left.filter (rank · == rank a) = right.filter (rank · == rank a) := by
            simpa [level] using levels (rank a)
          subst same
          rw [ih right others rest fun place => ?_]
          by_cases here : rank a = place
          · simpa [here] using levels place
          · simpa [here] using levels place

theorem listing_unique {given one two : List RemoteCommand} (first : Listing given one) (second : Listing given two) :
    one = two :=
  eq_of_levels one two first.ordered second.ordered fun place => (first.stable place).trans (second.stable place).symm

theorem mem_firsts_iff (given : List RemoteCommand) (command : RemoteCommand) :
    command ∈ firsts given ↔ given.find? (·.name == command.name) = some command := by
  -- The rest of the listing is that of a shorter list, without the names of the first command.
  induction length : given.length using Nat.strongRecOn generalizing given with
  | ind size ih =>
      cases given with
      | nil => simp [firsts]
      | cons first rest =>
          have shorter : (rest.filter fun other => !(other.name == first.name)).length < size := by
            have most := List.length_filter_le (fun other => !(other.name == first.name)) rest
            rw [← length, List.length_cons]
            omega
          rw [firsts_cons, List.mem_cons, ih _ shorter _ rfl]
          by_cases here : first.name = command.name
          · have gone : (rest.filter fun other => !(other.name == first.name)).find? (·.name == command.name) = none := by
              simp [here]
            rw [gone, List.find?_cons_of_pos (by simpa using here)]
            simp [eq_comm]
          · have apart : command ≠ first := fun same => here (congrArg RemoteCommand.name same.symm)
            have kept : (rest.filter fun other => !(other.name == first.name)).find? (·.name == command.name) =
                rest.find? (·.name == command.name) := by
              rw [List.find?_filter]
              congr 1
              funext other
              by_cases same : other.name = command.name <;> simp [same, Ne.symm here]
            rw [kept, List.find?_cons_of_neg (by simpa using here)]
            simp [apart]

end CommandMap

end DeviceLogin
