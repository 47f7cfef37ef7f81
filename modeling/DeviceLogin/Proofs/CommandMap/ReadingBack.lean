import DeviceLogin.CommandMap.Basic
import DeviceLogin.Proofs.Text.FormDecoding
import DeviceLogin.Proofs.Text.Pieces

set_option autoImplicit false

namespace DeviceLogin

namespace CommandMap

def cutLine? (line : List Char) : Option RemoteCommand :=
  match line.reverse.dropWhile (· != '=') with
  | [] => none
  | _ :: name =>
      some ⟨String.ofList name.reverse, Text.Form.decode (line.reverse.takeWhile (· != '=')).reverse⟩

def linesOf (text : String) : List (List Char) := (Text.splitOn '\n' text.toList).dropLast

def cutLines? : List (List Char) → Option (List RemoteCommand)
  | [] => some []
  | line :: rest => do
      let command ← cutLine? line
      let commands ← cutLines? rest
      return command :: commands

def readBack? (text : String) : Option (List RemoteCommand) := cutLines? (linesOf text)

theorem line_chars (command : RemoteCommand) :
    (line command).toList = command.name.toList ++ '=' :: (Text.Form.encode command.value).toList := by
  simp [line]

theorem cut_line (command : RemoteCommand) : cutLine? (line command).toList = some command := by
  have unsigned : ∀ c ∈ (Text.Form.encode command.value).toList.reverse, (c != '=') = true := by
    intro c member
    have other : c ≠ '=' := by
      rintro rfl
      exact Text.Form.encoded_without command.value '=' (by decide) (List.mem_reverse.mp member)
    simpa using other
  have turned : (line command).toList.reverse =
      (Text.Form.encode command.value).toList.reverse ++ '=' :: command.name.toList.reverse := by
    simp [line_chars]
  rw [cutLine?, turned, List.dropWhile_append_of_pos unsigned, List.takeWhile_append_of_pos unsigned]
  simp [Text.Form.decode_encode]

theorem line_unbroken (command : RemoteCommand) (unbroken : '\n' ∉ command.name.toList) : '\n' ∉ (line command).toList := by
  have value := Text.Form.encoded_without command.value '\n' (by decide)
  simp [line_chars, unbroken, value]

theorem lines_of_text (lines : List String) (unbroken : ∀ line ∈ lines, '\n' ∉ line.toList) :
    linesOf (String.join (lines.map fun line => line ++ "\n")) = lines.map String.toList := by
  induction lines with
  | nil => rfl
  | cons first rest ih =>
      have later := ih fun line member => unbroken line (List.mem_cons_of_mem _ member)
      have text : (String.join ((first :: rest).map fun line => line ++ "\n")).toList =
          first.toList ++ '\n' :: (String.join (rest.map fun line => line ++ "\n")).toList := by
        simp [String.join_cons]
      rw [linesOf, text, Text.split_first '\n' _ _ (unbroken first List.mem_cons_self),
        List.dropLast_cons_of_ne_nil (Text.splitOn_ne_nil _ _), List.map_cons]
      exact congrArg (first.toList :: ·) later

theorem name_in_line (line : List Char) (command : RemoteCommand) (cut : cutLine? line = some command) :
    command.name.toList ⊆ line := by
  intro c member
  unfold cutLine? at cut
  split at cut
  · cases cut
  · next sign name dropped =>
    cases cut
    have kept : c ∈ line.reverse.dropWhile (· != '=') := by
      rw [dropped]
      exact List.mem_cons_of_mem _ (by simpa using member)
    exact List.mem_reverse.mp ((List.dropWhile_suffix _).subset kept)

theorem cut_lines_cons (line : List Char) (rest : List (List Char)) (commands : List RemoteCommand)
    (cut : cutLines? (line :: rest) = some commands) :
    ∃ first later, cutLine? line = some first ∧ cutLines? rest = some later ∧ commands = first :: later := by
  simp only [cutLines?, Option.bind_eq_bind, Option.bind_eq_some_iff, Option.pure_def, Option.some.injEq] at cut
  obtain ⟨first, here, later, there, same⟩ := cut
  exact ⟨first, later, here, there, same.symm⟩

theorem cut_lines_names (lines : List (List Char)) (commands : List RemoteCommand) (unbroken : ∀ line ∈ lines, '\n' ∉ line)
    (cut : cutLines? lines = some commands) : ∀ command ∈ commands, '\n' ∉ command.name.toList := by
  induction lines generalizing commands with
  | nil =>
      cases cut
      exact fun command member => nomatch member
  | cons line rest ih =>
      obtain ⟨first, later, here, there, rfl⟩ := cut_lines_cons line rest commands cut
      intro command member
      rcases List.mem_cons.mp member with rfl | known
      · exact fun broken => unbroken line List.mem_cons_self (name_in_line line command here broken)
      · exact ih later (fun line member => unbroken line (List.mem_cons_of_mem _ member)) there command known

theorem cut_lines_of (commands : List RemoteCommand) : cutLines? ((commands.map line).map String.toList) = some commands := by
  induction commands with
  | nil => rfl
  | cons first rest ih =>
      rw [List.map_cons, List.map_cons, cutLines?, cut_line, ih]
      rfl

-- A map file is read back as the entries of the map, in their order, if and only if no name has a line feed in it.
-- Whatever the values are, and even with equals signs in the names.
theorem read_back_iff (map : CommandMap) :
    readBack? map.fileText = some map.entries ↔ ∀ name ∈ Ordered.keys map.commands, '\n' ∉ name.toList := by
  have names (name : String) : name ∈ Ordered.keys map.commands ↔ ∃ command ∈ map.entries, command.name = name := by
    simp [entries, Ordered.keys]
  constructor
  · intro read name known
    obtain ⟨command, member, rfl⟩ := (names name).mp known
    have pieces : ∀ line ∈ linesOf map.fileText, '\n' ∉ line :=
      fun line listed => Text.piece_unbroken '\n' _ line (List.dropLast_subset _ listed)
    exact cut_lines_names _ map.entries pieces read command member
  · intro unbroken
    have lines : linesOf map.fileText = map.lines.map String.toList := by
      refine lines_of_text map.lines fun text member => ?_
      obtain ⟨command, listed, rfl⟩ := List.mem_map.mp member
      exact line_unbroken command (unbroken command.name ((names _).mpr ⟨command, listed, rfl⟩))
    rw [readBack?, lines]
    exact cut_lines_of map.entries

end CommandMap

end DeviceLogin
