import Visa.Proofs.Placeholders
import Visa.Proofs.Toml.Keeping
import Visa.Proofs.Toml.Quoted
import Visa.Settings.Document

namespace Visa

/-! Settings that take the path of the rules file from a variable. The value of the variable is put
between the quotes of the text before the text is read, so it is read as a part of the text: the
path is the value only if each character of the value stands for itself there. Otherwise the text is
refused, or the path is shorter than the value and the rest of the value may set something else. -/

/-! ## The two lines -/

namespace Toml

/-- A document whose first line has been the header of the rules. -/
def inRules (members : List (String × Node)) : Draft :=
  ⟨⟨.header, [("rules", .table .header members)]⟩, ["rules"]⟩

theorem line?_rules (rest : List Char) :
    line? ⟨⟨.header, []⟩, []⟩ ("[rules]\n".toList ++ rest) = some (inRules [], rest) := rfl

theorem line?_path (text : List Char) :
    line? (inRules []) ("path = ".toList ++ '"' :: text) =
      (string? ('"' :: text)).bind fun (letters, rest) => (lineEnd? rest).map fun rest =>
        (inRules [("path", .text (String.ofList letters))], rest) := by
  have key : assigned? skipBlanks ("path = ".toList ++ '"' :: text) =
      some (([], "path"), '"' :: text) := rfl
  have value : valueOf? ('"' :: text) = (string? ('"' :: text)).map fun (letters, rest) =>
      (.text (String.ofList letters), rest) := rfl
  change (assigned? skipBlanks ("path = ".toList ++ '"' :: text) >>= _) = _
  rw [key]
  change (valueOf? ('"' :: text) >>= _) = _
  rw [value]
  cases string? ('"' :: text) with
  | none => rfl
  | some read =>
      obtain ⟨letters, rest⟩ := read
      change (lineEnd? rest >>= _) = (lineEnd? rest).map _
      cases lineEnd? rest <;> rfl

theorem lines?_succ (fuel : Nat) (draft : Draft) {text : List Char}
    (solid : skipGap false text = text) (nonempty : text ≠ []) :
    lines? (fuel + 1) draft text =
      (line? draft text).bind fun (after, rest) => lines? fuel after rest := by
  obtain ⟨letter, rest, rfl⟩ := List.exists_cons_of_ne_nil nonempty
  rw [lines?, solid]
  rfl

theorem ofText?_rules_path (text : List Char) :
    ofText? ("[rules]\n".toList ++ ("path = ".toList ++ '"' :: text)) =
      (line? (inRules []) ("path = ".toList ++ '"' :: text)).bind fun (draft, rest) =>
        lines? (text.length + 15) draft rest := by
  have length : ("[rules]\n".toList ++ ("path = ".toList ++ '"' :: text)).length + 1 =
      text.length + 15 + 1 + 1 := by simp
  have unmarked (rest : List Char) :
      dropMark ("[rules]\n".toList ++ rest) = "[rules]\n".toList ++ rest := rfl
  have header (rest : List Char) :
      skipGap false ("[rules]\n".toList ++ rest) = "[rules]\n".toList ++ rest := rfl
  have key (rest : List Char) :
      skipGap false ("path = ".toList ++ rest) = "path = ".toList ++ rest := rfl
  rw [ofText?, length, unmarked, lines?_succ _ _ (header _) (by simp), line?_rules,
    Option.bind_some]
  exact lines?_succ _ _ (key _) (by simp)

/-- The string behind the key is the path, whatever the lines after it say. -/
theorem exists_path_of_ofText? {text : List Char} {root : Table}
    (found : ofText? ("[rules]\n".toList ++ ("path = ".toList ++ '"' :: text)) = some root) :
    ∃ letters rest, string? ('"' :: text) = some (letters, rest) ∧
      root.toNode.textAt? ["rules", "path"] = some (String.ofList letters) := by
  rw [ofText?_rules_path, line?_path] at found
  obtain ⟨⟨draft, rest⟩, line, later⟩ := Option.bind_eq_some_iff.mp found
  obtain ⟨⟨letters, behind⟩, string, ended⟩ := Option.bind_eq_some_iff.mp line
  obtain ⟨_, _, same⟩ := Option.map_eq_some_iff.mp ended
  cases same
  exact ⟨letters, behind, string, keeps_lines? later _ _ rfl⟩

end Toml

namespace Settings

open Toml (Cost IsVerbatim inRules)

theorem setting?_of_lookup {form : Toml.Form} {members : List (String × Toml.Node)}
    {name value : String} (here : Toml.Table.lookup ⟨form, members⟩ name = some (.text value)) :
    setting? members name = some (some value) := by
  rw [Toml.Table.lookup] at here
  rw [setting?, here]

/-- A section that says something says it among its entries. -/
theorem section?_of_textAt? {root : Toml.Table} {title name value : String}
    {entries : List (Option String)} (there : root.toNode.textAt? [title, name] = some value)
    (found : section? root title [name] = some entries) : entries = [some value] := by
  obtain ⟨node, titled, inside⟩ := Option.bind_eq_some_iff.mp there
  change root.lookup title = some node at titled
  rw [section?, titled] at found
  cases node with
  | table form members =>
      obtain ⟨leaf, named, isText⟩ := Option.bind_eq_some_iff.mp inside
      cases leaf with
      | text content =>
          cases isText
          simp only [entries?] at found
          split at found
          · rw [List.mapM_cons, setting?_of_lookup named] at found
            cases found
            rfl
          · cases found
      | _ => cases isText
  | _ => cases inside

theorem rulesPath_of_ofTable? {root : Toml.Table} {settings : Settings} {path : String}
    (there : root.toNode.textAt? ["rules", "path"] = some path)
    (found : ofTable? root = some settings) : settings.rulesPath = some path := by
  obtain ⟨rules, entries, found⟩ := Option.bind_eq_some_iff.mp found
  obtain ⟨logging, others, found⟩ := Option.bind_eq_some_iff.mp found
  cases section?_of_textAt? there entries
  split at found
  next same =>
    cases same
    split at found
    · cases found
      rfl
    · cases found
  next => cases found

/-! ## The value between the quotes -/

/-- Settings in which a placeholder stands for the path. -/
def splicing (name : String) : List Char :=
  "[rules]\npath = \"".toList ++ (written name.toList ++ "\"\n".toList)

variable {environment : Environment} {name value : String} {settings : Settings}

theorem substitute_splicing (isName : IsName name.toList) (found : environment name = some value) :
    substitute environment (splicing name) =
      "[rules]\n".toList ++ ("path = ".toList ++ '"' :: (value.toList ++ ['"', '\n'])) := by
  have filled : (Piece.placeholder name.toList).filled environment = value.toList :=
    Piece.filled_of_some (by rwa [String.ofList_toList])
  have opening : "[rules]\npath = \"".toList =
      "[rules]\n".toList ++ ("path = ".toList ++ ['"']) := by decide
  have free : '$' ∉ "[rules]\npath = \"".toList := by decide
  have unclosed : '}' ∉ "\"\n".toList := by decide
  have closing : "\"\n".toList = ['"', '\n'] := by decide
  unfold splicing
  rw [substitute_append_of_not_mem free, (scan_written environment isName _).1, filled,
    (scan_of_not_mem environment unclosed).1, opening, closing]
  simp only [List.append_assoc, List.singleton_append]

theorem exists_cost_of_ofText (isName : IsName name.toList) (found : environment name = some value)
    (read : ofText environment (splicing name) = .ok settings) :
    ∃ letters, settings.rulesPath = some (String.ofList letters) ∧ Cost value.toList letters := by
  rw [ofText, substitute_splicing isName found] at read
  split at read
  next settings given =>
    cases read
    obtain ⟨root, parsed, taken⟩ := Option.bind_eq_some_iff.mp given
    obtain ⟨letters, rest, string, there⟩ := Toml.exists_path_of_ofText? parsed
    exact ⟨letters, rulesPath_of_ofTable? there taken, Toml.cost_of_string? string⟩
  next => cases read

theorem ofText_of_verbatim (isName : IsName name.toList) (found : environment name = some value)
    (verbatim : ∀ letter ∈ value.toList, IsVerbatim letter) :
    ofText environment (splicing name) = .ok { rulesPath := some value } := by
  have read : Toml.ofText? ("[rules]\n".toList ++
      ("path = ".toList ++ '"' :: (value.toList ++ ['"', '\n']))) =
        some (inRules [("path", .text value)]).root := by
    rw [Toml.ofText?_rules_path, Toml.line?_path, ← List.cons_append,
      Toml.string?_of_verbatim verbatim, Option.bind_some]
    dsimp only
    rw [String.ofList_toList]
    rfl
  rw [ofText, substitute_splicing isName found, read]
  rfl

/-- The path is the value exactly if each character of the value stands for itself between the
quotes. Whatever else the text then says, the path is shorter than the value. -/
theorem ofText_splicing (isName : IsName name.toList) (found : environment name = some value) :
    (ofText environment (splicing name) = .ok { rulesPath := some value } ↔
        ∀ letter ∈ value.toList, IsVerbatim letter) ∧
      ∀ settings, ofText environment (splicing name) = .ok settings →
        settings = { rulesPath := some value } ∨
          ∃ path, settings.rulesPath = some path ∧ path.length < value.length := by
  have shorter (letters : List Char) (less : letters.length < value.toList.length) :
      (String.ofList letters).length < value.length := by
    rwa [String.length_ofList, ← String.length_toList]
  refine ⟨⟨fun read => ?_, ofText_of_verbatim isName found⟩, fun settings read => ?_⟩
  · obtain ⟨letters, same, ⟨_, verbatim⟩ | less⟩ := exists_cost_of_ofText isName found read
    · exact verbatim
    · cases same
      exact absurd (shorter letters less) (Nat.lt_irrefl _)
  · obtain ⟨letters, path, ⟨rfl, verbatim⟩ | less⟩ := exists_cost_of_ofText isName found read
    · rw [ofText_of_verbatim isName found verbatim] at read
      cases read
      exact .inl rfl
    · exact .inr ⟨_, path, shorter letters less⟩

theorem ofText_splicing_plain :
    let environment := Environment.ofList [("VISA_RULES", "/srv/rules, new.json")]
    IsName "VISA_RULES".toList ∧ environment "VISA_RULES" = some "/srv/rules, new.json" ∧
      ofText environment (splicing "VISA_RULES") =
        .ok { rulesPath := some "/srv/rules, new.json" } := by
  intro environment
  have isName : IsName "VISA_RULES".toList := ⟨by decide, by decide⟩
  have found : environment "VISA_RULES" = some "/srv/rules, new.json" := by decide
  have verbatim : "/srv/rules, new.json".toList.all fun letter => IsVerbatim letter := by decide
  refine ⟨isName, found, (ofText_splicing isName found).1.mpr fun letter inside => ?_⟩
  exact of_decide_eq_true (List.all_eq_true.mp verbatim letter inside)

/-- A value with a quote in it sets the level of the log. -/
theorem ofText_splicing_sets_level :
    let environment (value : String) := Environment.ofList [("V", value)]
    (¬∀ value : String, '\x00' ∉ value.toList →
      ofText (environment value) (splicing "V") = .ok { rulesPath := some value }) ∧
    ofText (environment "rules.json\"\n[logging]\nlevel = \"debug") (splicing "V") =
      .ok { rulesPath := some "rules.json", logLevel := some "debug" } := by
  intro environment
  have read : ofText (environment "rules.json\"\n[logging]\nlevel = \"debug") (splicing "V") =
      .ok { rulesPath := some "rules.json", logLevel := some "debug" } := by decide +kernel
  refine ⟨fun stays => ?_, read⟩
  have stayed := read.symm.trans (stays _ (by decide))
  exact Option.some_ne_none _ (congrArg Settings.logLevel (Except.ok.inj stayed))

end Settings

end Visa
