import Visa.Proofs.Extraction
import Visa.Proofs.Json.Machine
import Visa.Proofs.Literals
import Visa.Proofs.Required

namespace Visa

/-! What the lookups make of any object without objects in it. A lookup starts behind the colon of
the field's own member, but it does not know where that member ends: a string is the next literal,
a list stands between the next brackets, and only a count or a word has to be there at once. -/

open Json (Draft Token)
open Json.Draft (itemTokens memberTokens separated)
open Json.Token (AllSpace Spelled plain)

namespace Record

variable {field : Field} {record : List Char} {members later : List (Draft × Draft)}
  {value : Draft}

/-- The value of the first member with the name of a field, and the members behind it. -/
def located? (field : Field) : List (Draft × Draft) → Option (Draft × List (Draft × Draft))
  | [] => none
  | (key, value) :: rest => if field.Names key then some (value, rest) else located? field rest

theorem exists_of_located? (found : located? field members = some (value, later)) :
    ∃ before key, members = before ++ (key, value) :: later ∧ Rule.Parts.Lacks before field ∧
      field.Names key := by
  induction members with
  | nil => contradiction
  | cons member rest ih =>
      obtain ⟨key, first⟩ := member
      by_cases named : field.Names key
      · rw [located?, if_pos named] at found
        cases found
        exact ⟨[], key, rfl, nofun, named⟩
      · rw [located?, if_neg named] at found
        obtain ⟨before, other, rfl, lacks, names⟩ := ih found
        exact ⟨(key, first) :: before, other, rfl, List.forall_mem_cons.mpr ⟨named, lacks⟩, names⟩

theorem lacks_of_located? (missing : located? field members = none) :
    Rule.Parts.Lacks members field := by
  induction members with
  | nil => nofun
  | cons member rest ih =>
      by_cases named : field.Names member.1
      · rw [located?, if_pos named] at missing
        contradiction
      · rw [located?, if_neg named] at missing
        exact List.forall_mem_cons.mpr ⟨named, ih missing⟩

/-- The first string in a value; if it has none, the key of the next member. -/
def nextText? (value : Draft) (later : List (Draft × Draft)) : Option String :=
  (value.strings.head?.or (later.head?.bind fun member => member.1.strings.head?)).bind
    Json.Literal.text?

def text? (field : Field) (members : List (Draft × Draft)) : Option String :=
  (located? field members).bind fun (value, later) => nextText? value later

def hasNumber (field : Field) (members : List (Draft × Draft)) : Bool :=
  (located? field members).any fun (value, _) => value.isNumber

def hasWord (field : Field) (members : List (Draft × Draft)) : Bool :=
  (located? field members).any fun (value, _) => value.isWord

/-- A required field is found if a string follows its colon anywhere in the object, a number or a
word at once. -/
def isPresent (members : List (Draft × Draft)) (field : Field) : Bool :=
  match field with
  | .destination | .passport | .purpose | .category | .kind => (text? field members).isSome
  | .maxStay | .processing => hasNumber field members
  | .visaRequired => hasWord field members
  | .documents => true

theorem string?_of_quotes {rest : List Char} (read : valueText field record = some rest) :
    string? field record =
      ((Text.after? ['"'] rest).bind (Text.before? ['"'])).map Text.trim := by
  rw [string?, read]
  cases opened : Text.after? ['"'] rest with
  | none => simp [opened]
  | some behind => cases closed : Text.before? ['"'] behind <;> simp [opened, closed]

theorem items_of_brackets {rest : List Char} (read : valueText field record = some rest) :
    items field record =
      (((Text.after? ['['] rest).bind (Text.before? [']'])).map itemsOf).getD [] := by
  simp only [items, read, Option.bind_eq_bind, Option.bind_some]
  cases (Text.after? ['['] rest).bind (Text.before? [']']) <;> rfl

theorem isSome_run? {accepts : Char → Bool} {first : Char} {space behind : List Char}
    (read : valueText field record = some (space ++ first :: behind)) (blank : AllSpace space)
    (solid : Text.isBlank first = false) :
    (run? accepts field record).isSome = accepts first := by
  have started : Text.trimStart (space ++ first :: behind) = first :: behind := by
    rw [Text.trimStart_of_blank _ (isBlank_of_allSpace blank), Text.trimStart,
      List.dropWhile_cons_of_neg (by simp [solid])]
  simp only [run?, read, Option.bind_eq_bind, Option.bind_some, started]
  cases accepted : accepts first <;> simp [accepted]

/-- An object without objects in it, in a text without escapes, where no string is the name of a
field. -/
structure Flat (record : List Char) (members : List (Draft × Draft)) : Prop where
  found : Draft.ofText record = (.object members none, false)
  whole : (Draft.object members none).flaw? = none
  objectFree : ∀ member ∈ members, Token.objectOpen ∉ member.2.tokens
  escapeFree : '\\' ∉ record
  unnamed : ∀ member ∈ members, ∀ text ∈ member.2.strings, ∀ field : Field,
    text.value ≠ .ok field.name

namespace Flat

variable (flat : Flat record members)

include flat

theorem sound : (Draft.object members none).Sound := Json.Draft.sound_of_flaw? _ flat.whole

theorem keys : ∀ member ∈ members, ∃ text, member.1 = .string text := by
  have whole := flat.whole
  rw [Json.Draft.flaw?, Option.or_none] at whole
  exact fun member inside => (Json.Draft.sound_of_membersFlaw? _ whole member inside).1

theorem values : ∀ member ∈ members, member.2.Sound := by
  have whole := flat.whole
  rw [Json.Draft.flaw?, Option.or_none] at whole
  exact fun member inside => (Json.Draft.sound_of_membersFlaw? _ whole member inside).2.2

theorem exists_body : ∃ body tail, record = body ++ tail ∧
    Spelled (Draft.object members none).tokens body ∧ AllSpace tail := by
  have tokens := Json.Draft.tokens_ofText flat.found flat.sound
  have spelled := Token.spelled_ofText flat.escapeFree (by
    rw [tokens]
    exact flat.sound.of_mem_tokens)
  rwa [tokens] at spelled

theorem foreign :
    ∀ member ∈ members, ∀ field : Field, plain field.name.toList ∉ member.2.tokens := by
  intro member inside field inTokens
  have inStrings : ⟨.ok (String.ofList field.name.toList), none⟩ ∈ member.2.strings := by
    rw [← (flat.values member inside).literals (flat.objectFree member inside)]
    exact List.mem_filterMap.mpr ⟨_, inTokens, rfl⟩
  exact flat.unnamed member inside _ inStrings field (by rw [String.ofList_toList])

theorem legible : Legible members where
  keys member inside := by
    obtain ⟨text, key⟩ := flat.keys member inside
    obtain ⟨body, tail, _, spelled, _⟩ := flat.exists_body
    have inTokens : Token.string text ∈ (Draft.object members none).tokens := by
      have piece : member.1.tokens ++ .colon :: member.2.tokens ∈ memberTokens members := by
        rw [Json.Draft.memberTokens_eq_map]
        exact List.mem_map_of_mem inside
      have inPiece : Token.string text ∈ member.1.tokens ++ .colon :: member.2.tokens := by
        simp [key, Json.Draft.tokens]
      rw [Json.Draft.tokens]
      simp [Json.Draft.subset_separated piece inPiece]
    obtain ⟨name, rfl⟩ := spelled.exists_of_mem_literals text
      (List.mem_filterMap.mpr ⟨_, inTokens, rfl⟩)
    exact ⟨name, none, key⟩
  values := flat.values
  foreign := flat.foreign

/-- What a lookup starts from is the text behind the colon of the field's own member. -/
theorem exists_rest (found : located? field members = some (value, later)) :
    ∃ before key lead rest tail, members = before ++ (key, value) :: later ∧
      record = lead ++ (rest ++ tail) ∧ Spelled (tokensBefore before key) lead ∧
      Spelled (value.tokens ++ tokensAfter later) rest ∧ AllSpace tail ∧ value.Sound ∧
      valueText field record = some (rest ++ tail) := by
  obtain ⟨before, key, rfl, lacks, names⟩ := exists_of_located? found
  obtain ⟨body, tail, rfl, spelled, blank⟩ := flat.exists_body
  obtain ⟨lead, rest, rfl, spelledLead, spelledRest, read⟩ :=
    exists_lead spelled flat.legible.of_append lacks names
  exact ⟨before, key, lead, rest, tail, rfl, List.append_assoc _ _ _, spelledLead, spelledRest,
    blank, flat.values (key, value) (by simp), read tail⟩

theorem valueText_eq_none (missing : located? field members = none) :
    valueText field record = none := by
  obtain ⟨body, tail, rfl, spelled, blank⟩ := flat.exists_body
  exact valueText_append_eq_none spelled flat.legible (lacks_of_located? missing)
    (blank.not_mem rfl)

/-! ### Strings -/

theorem head?_literals_tokensAfter (inside : later ⊆ members) :
    (Token.literals (tokensAfter later)).head? =
      later.head?.bind fun member => member.1.strings.head? := by
  cases later with
  | nil => rfl
  | cons member rest =>
      obtain ⟨key, value⟩ := member
      obtain ⟨text, same⟩ := flat.keys (key, value) (inside List.mem_cons_self)
      cases same
      rfl

theorem string?_eq (field : Field) :
    string? field record = (text? field members).map fun text => Text.trim text.toList := by
  cases found : located? field members with
  | none => simp [string?, flat.valueText_eq_none found, text?, found]
  | some place =>
      obtain ⟨value, later⟩ := place
      obtain ⟨before, key, lead, rest, tail, order, _, _, spelled, blank, sound, read⟩ :=
        flat.exists_rest found
      have quoted := spelled.between_quotes (blank.not_mem rfl)
      have next : (Token.literals (value.tokens ++ tokensAfter later)).head? =
          value.strings.head?.or (later.head?.bind fun member => member.1.strings.head?) := by
        have flatValue := flat.objectFree (key, value) (by simp [order])
        rw [Token.literals, List.filterMap_append, List.head?_append]
        change (Token.literals value.tokens).head?.or (Token.literals (tokensAfter later)).head? = _
        rw [sound.literals flatValue, flat.head?_literals_tokensAfter (by simp [order])]
      rw [next] at quoted
      rw [string?_of_quotes read, quoted, text?, found, Option.bind_some, Option.map_map]
      rfl

/-! ### Numbers and words -/

theorem exists_first (found : located? field members = some (value, later)) :
    ∃ space first behind, valueText field record = some (space ++ first :: behind) ∧
      AllSpace space ∧ Text.isBlank first = false ∧ isCountLetter first = value.isNumber ∧
      Text.isAlphabetic first = value.isWord := by
  obtain ⟨_, _, _, rest, tail, _, _, _, spelled, _, sound, read⟩ := flat.exists_rest found
  obtain ⟨token, more, tokens, number, word⟩ := sound.exists_token
  rw [tokens, List.cons_append] at spelled
  cases spelled with
  | @cons _ _ space _ behind blank form _ =>
      obtain ⟨first, letters, rfl, solid, count, alphabetic⟩ := form.exists_first
      rw [number] at count
      rw [word] at alphabetic
      exact ⟨space, first, letters ++ behind ++ tail, by simp [read], blank, solid, count,
        alphabetic⟩

theorem isSome_count? (field : Field) :
    (count? field record).isSome = hasNumber field members := by
  cases found : located? field members with
  | none => simp [count?, run?, flat.valueText_eq_none found, hasNumber, found]
  | some place =>
      obtain ⟨space, first, behind, read, blank, solid, count, _⟩ := flat.exists_first found
      rw [count?, isSome_run? read blank solid, count, hasNumber, found]
      rfl

theorem isSome_boolean? (field : Field) :
    (boolean? field record).isSome = hasWord field members := by
  cases found : located? field members with
  | none => simp [boolean?, run?, flat.valueText_eq_none found, hasWord, found]
  | some place =>
      obtain ⟨space, first, behind, read, blank, solid, _, alphabetic⟩ := flat.exists_first found
      rw [boolean?, isSome_run? read blank solid, alphabetic, hasWord, found]
      rfl

theorem isFound_eq (field : Field) : field.isFound record = isPresent members field := by
  cases field with
  | destination | passport | purpose | category | kind =>
      rw [Field.isFound, isPresent, flat.string?_eq, Option.isSome_map]
  | maxStay | processing => exact flat.isSome_count? _
  | visaRequired => exact flat.isSome_boolean? _
  | documents => rfl

/-! ### Lists -/

/-- The list of a field stands between the next brackets behind its colon, wherever they are. -/
theorem exists_items (found : located? field members = some (value, later)) :
    ∃ before key lead rest, members = before ++ (key, value) :: later ∧ record = lead ++ rest ∧
      Spelled (tokensBefore before key) lead ∧
      items field record =
        (((Text.after? ['['] rest).bind (Text.before? [']'])).map itemsOf).getD [] ∧
      ((∀ token ∈ value.tokens ++ tokensAfter later, token.hasBracket = false) →
        items field record = []) := by
  obtain ⟨before, key, lead, rest, tail, order, whole, spelledLead, spelled, blank, _, read⟩ :=
    flat.exists_rest found
  refine ⟨before, key, lead, rest ++ tail, order, whole, spelledLead, items_of_brackets read,
    fun bracketFree => items_of_unopened read ?_⟩
  have tailFree : '[' ∉ tail := blank.not_mem rfl
  simp [spelled.bracket_not_mem bracketFree, tailFree]

end Flat

/-- What fields read as in an object without objects in it, whatever the types of its values. A
count is found only if a number is the value of its own member. A string is the first one behind
the colon: in the value itself, or else the key of the next member. A list stands between the next
brackets behind the colon and is empty if there are none. The first required field that is not
found is missing. -/
theorem readings_of_flat (flat : Flat record members) :
    (∀ field, (count? field record).isSome = hasNumber field members) ∧
      (∀ field, string? field record =
        (text? field members).map fun text => Text.trim text.toList) ∧
      (∀ field value later, located? field members = some (value, later) →
        ∃ before key lead rest, members = before ++ (key, value) :: later ∧
          record = lead ++ rest ∧ Spelled (tokensBefore before key) lead ∧
          items field record =
            (((Text.after? ['['] rest).bind (Text.before? [']'])).map itemsOf).getD [] ∧
          ((∀ token ∈ value.tokens ++ tokensAfter later, token.hasBracket = false) →
            items field record = [])) ∧
      ∀ field, read record = .error (.missingField field.name) ↔
        Field.required.find? (fun other => !isPresent members other) = some field := by
  refine ⟨flat.isSome_count?, flat.string?_eq, fun field value later => flat.exists_items,
    fun field => ?_⟩
  rw [read_eq_missingField_iff]
  simp only [flat.isFound_eq]

theorem readings_of_flat_wrong_types :
    let record := ("\x7b\"destination\": null, \"maxStayDays\": \"90\",".toList ++
      "\"documents\": 1, \"tags\": [\"PHOTO\"]\x7d".toList)
    let members : List (Draft × Draft) :=
      [(.string ⟨.ok "destination", none⟩, .null),
        (.string ⟨.ok "maxStayDays", none⟩, .string ⟨.ok "90", none⟩),
        (.string ⟨.ok "documents", none⟩, .number (.natural 1)),
        (.string ⟨.ok "tags", none⟩, .list [.string ⟨.ok "PHOTO", none⟩] none)]
    Flat record members ∧ (count? .maxStay record).isSome = false ∧
      string? .destination record = some "maxStayDays".toList ∧
      read record = .error (.missingField "passportCountry") := by
  intro record members
  have flat : Flat record members :=
    { found := rfl
      whole := rfl
      objectFree := by simp [members, Json.Draft.tokens, itemTokens, separated]
      escapeFree := by decide
      unnamed := by decide }
  obtain ⟨counts, strings, lists, missing⟩ := readings_of_flat flat
  exact ⟨flat, counts .maxStay, strings .destination, (missing .passport).mpr rfl⟩

/-- A value of the wrong type can be read all the same: here a number is read as the name of the
next member, and null as the list of another. -/
theorem wrong_types_read_on :
    let record := ("\x7b\"destination\": 12, \"passportCountry\": \"USA\",".toList ++
      "\"documents\": null, \"tags\": [\"PHOTO\"]\x7d".toList)
    let members : List (Draft × Draft) :=
      [(.string ⟨.ok "destination", none⟩, .number (.natural 12)),
        (.string ⟨.ok "passportCountry", none⟩, .string ⟨.ok "USA", none⟩),
        (.string ⟨.ok "documents", none⟩, .null),
        (.string ⟨.ok "tags", none⟩, .list [.string ⟨.ok "PHOTO", none⟩] none)]
    Flat record members ∧ string? .destination record = some "passportCountry".toList ∧
      items .documents record = ["PHOTO".toList] ∧
      read record ≠ .error (.missingField "destination") := by
  intro record members
  refine ⟨⟨rfl, rfl, ?_, by decide, by decide⟩, by decide, by decide, by decide +kernel⟩
  simp [members, Json.Draft.tokens, itemTokens, separated]

end Record

end Visa
