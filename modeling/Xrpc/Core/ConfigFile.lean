import Xrpc.Core.Config

/-! Config files as they are written: what `Load` reads back from one, and what the
blanks around its lines change. -/

namespace Xrpc

open Support

/-- A run of spaces and tabs. -/
abbrev Blanks := { s : Bytes // ∀ c ∈ s, c ∈ blanks }

theorem Blanks.flat (s : Blanks) : 10 ∉ s.1 := not_mem_of_blank s.2 (by decide)

theorem setting_nil : setting [] = none := rfl

theorem setting_of_blank {before : Bytes} (blank : ∀ c ∈ before, c ∈ blanks)
    (nonempty : before ≠ []) (rest : Bytes) : setting (before ++ rest) = assignment (before ++ rest) := by
  cases before with
  | nil => exact absurd rfl nonempty
  | cons head tail =>
    have visible : head ≠ 35 := by
      rintro rfl
      exact absurd (blank 35 List.mem_cons_self) (by decide)
    simp [setting, visible]

section Pairs

/-- A pair that a config file can hold. -/
structure ConfigPair where
  key : Bytes
  value : Bytes
  nonempty : key ≠ []
  key_flat : 61 ∉ key ∧ 10 ∉ key
  uncommented : key.head? ≠ some 35
  key_trimmed : Trimmed blanks key
  value_flat : 10 ∉ value
  value_trimmed : Trimmed blanks value

/-- A line that someone writes into a config file. -/
inductive ConfigLine
  | assign (pair : ConfigPair) (before left right after : Blanks)
  | blank (line : Blanks)
  | comment (rest : Bytes) (flat : 10 ∉ rest)

def ConfigLine.written : ConfigLine → Bytes
  | .assign pair before left right after =>
    before.1 ++ (pair.key ++ left.1) ++ 61 :: (right.1 ++ (pair.value ++ after.1))
  | .blank line => line.1
  | .comment rest _ => 35 :: rest

def ConfigLine.pair? : ConfigLine → Option ConfigPair
  | .assign pair _ _ _ _ => some pair
  | _ => none

/-- The text of a file, with or without a newline behind its last line. -/
def fileText (file : List ConfigLine) (ended : Bool) : Bytes :=
  join 10 (file.map ConfigLine.written) ++ if ended then [10] else []

theorem ConfigLine.flat (line : ConfigLine) : 10 ∉ line.written := by
  cases line with
  | assign pair before left right after =>
    simp [written, pair.key_flat.2, pair.value_flat, before.flat, left.flat, right.flat, after.flat]
  | blank line => exact line.flat
  | comment rest flat => simp [written, flat]

theorem setting_written (line : ConfigLine) :
    setting line.written = line.pair?.map fun pair => (pair.key, pair.value) := by
  cases line with
  | assign pair before left right after =>
    have absent : 61 ∉ before.1 ++ (pair.key ++ left.1) := by
      have first := not_mem_of_blank before.2 (c := 61) (by decide)
      have second := not_mem_of_blank left.2 (c := 61) (by decide)
      simp [first, second, pair.key_flat.1]
    have assigned : assignment (ConfigLine.assign pair before left right after).written =
        some (pair.key, pair.value) := by
      rw [ConfigLine.written, assignment_split absent, trim_append before.2 left.2,
        trim_append right.2 after.2, trim_of_trimmed pair.key_trimmed,
        trim_of_trimmed pair.value_trimmed, if_neg pair.nonempty]
    have uncommented : (ConfigLine.assign pair before left right after).written.head? ≠ some 35 := by
      obtain ⟨first, others, same⟩ := List.exists_cons_of_ne_nil pair.nonempty
      have visible := pair.uncommented
      cases front : before.1 with
      | nil => simpa [ConfigLine.written, front, same] using visible
      | cons head tail =>
        have blank := before.2 head (by simp [front])
        simp only [ConfigLine.written, front, List.cons_append, List.head?_cons, ne_eq,
          Option.some.injEq]
        rintro rfl
        exact absurd blank (by decide)
    rw [setting, if_neg uncommented, assigned]
    rfl
  | blank line =>
    cases same : line.1 with
    | nil => simp [ConfigLine.written, ConfigLine.pair?, same, setting_nil]
    | cons head tail =>
      have read := setting_of_blank line.2 (by simp [same]) []
      rw [List.append_nil] at read
      rw [ConfigLine.written, read, assignment_of_blank line.2]
      rfl
  | comment rest flat => simp [ConfigLine.written, setting, ConfigLine.pair?]

theorem lines_fileText (file : List ConfigLine) (ended : Bool) :
    (lines 10 (fileText file ended)).filterMap setting =
      (file.filterMap ConfigLine.pair?).map fun pair => (pair.key, pair.value) := by
  have flat : ∀ part ∈ file.map ConfigLine.written, 10 ∉ part := by
    intro part member
    obtain ⟨line, -, rfl⟩ := List.mem_map.mp member
    exact line.flat
  have read : (file.map ConfigLine.written).filterMap setting =
      (file.filterMap ConfigLine.pair?).map fun pair => (pair.key, pair.value) := by
    rw [List.filterMap_map, List.map_filterMap]
    exact List.filterMap_congr fun line _ => setting_written line
  rw [← read]
  cases ended with
  | false => simpa [fileText] using filterMap_lines_join setting_nil flat
  | true =>
    cases file with
    | nil => rfl
    | cons first rest =>
      have more : fileText (first :: rest) true =
          join 10 ((first :: rest).map ConfigLine.written ++ [[]]) := by
        rw [join_append (by simp) (by simp)]
        rfl
      have flatter : ∀ part ∈ (first :: rest).map ConfigLine.written ++ [[]], 10 ∉ part := by
        intro part member
        rcases List.mem_append.mp member with old | last
        · exact flat part old
        · simp [List.mem_singleton.mp last]
      rw [more, filterMap_lines_join setting_nil flatter, List.filterMap_append]
      simp [setting_nil]

/-- A config file is read back as it was written: the last pair with a key counts. -/
theorem config_read_back (file : List ConfigLine) (ended : Bool) (files : Bytes → Option Bytes)
    (name : Bytes) (opened : files name = some (fileText file ended)) :
    ∃ config, (XrpcConfig.load files name).run {} = .ok () config ∧
      ∀ key default, config.get key default =
        ((((file.filterMap ConfigLine.pair?).filter (·.key = key)).getLast?).map (·.value)).getD
          default := by
  refine ⟨_, XrpcConfig.run_load opened {}, ?_⟩
  intro key default
  have found : ((XrpcConfig.set {} ((lines 10 (fileText file ended)).filterMap setting)).configMap.find?
      key) = ((((file.filterMap ConfigLine.pair?).filter (·.key = key)).getLast?).map (·.value)) := by
    rw [XrpcConfig.find?_set_new, lines_fileText, Table.lastValue, List.filter_map, List.getLast?_map,
      Option.map_map]
    rfl
  rw [XrpcConfig.get, found]

/-- `log_level` is set twice, the second time to nothing. -/
def logConfig : List ConfigLine :=
  let level : ConfigPair :=
    ⟨text "log_level", text "a=b", by decide +kernel, by decide +kernel, by decide +kernel,
      by decide +kernel, by decide +kernel, by decide +kernel⟩
  let cleared : ConfigPair :=
    ⟨text "log_level", [], by decide +kernel, by decide +kernel, by decide +kernel,
      by decide +kernel, by decide +kernel, by decide +kernel⟩
  let file : ConfigPair :=
    ⟨text "log_file", text "a=b", by decide +kernel, by decide +kernel, by decide +kernel,
      by decide +kernel, by decide +kernel, by decide +kernel⟩
  let none : Blanks := ⟨[], by simp⟩
  let some : Blanks := ⟨[32, 9], by simp⟩
  [.comment (text "log_file=x") (by decide +kernel), .assign level some none some none, .blank some,
    .assign file none some none some, .assign cleared none none none none]

theorem logConfig_read_back : ∃ config,
    (XrpcConfig.load (fun _ => some (fileText logConfig false)) (text "xrpc.conf")).run {} =
      .ok () config ∧
    config.get (text "log_file") (text "xrpc.log") = text "a=b" ∧
    config.get (text "log_level") (text "info") = [] ∧
    config.get (text "log_size") (text "1") = text "1" := by
  obtain ⟨config, loaded, read⟩ := config_read_back logConfig false
    (fun _ => some (fileText logConfig false)) (text "xrpc.conf") rfl
  refine ⟨config, loaded, ?_, ?_, ?_⟩
  · exact (read _ _).trans (by decide)
  · exact (read _ _).trans (by decide)
  · exact (read _ _).trans (by decide)

end Pairs

section Padding

/-- A line of a text with what is added at its ends. -/
structure PaddedLine where
  before : Blanks
  line : Bytes
  after : Blanks
  flat : 10 ∉ line

def PaddedLine.padded (padding : PaddedLine) : Bytes :=
  padding.before.1 ++ (padding.line ++ padding.after.1)

/-- The text before the blanks were added, and with them. -/
def plainText (paddings : List PaddedLine) : Bytes := join 10 (paddings.map PaddedLine.line)

def paddedText (paddings : List PaddedLine) : Bytes := join 10 (paddings.map PaddedLine.padded)

/-- The lines of any text can be padded. -/
theorem exists_plainText (content : Bytes) : ∃ paddings, plainText paddings = content := by
  obtain ⟨part, rest, same, flat⟩ := exists_join 10 content
  refine ⟨(part :: rest).attach.map fun line => ⟨⟨[], by simp⟩, line.1, ⟨[], by simp⟩,
    flat line.1 line.2⟩, ?_⟩
  rw [same, plainText, List.map_map]
  exact congrArg (join 10) (List.attach_map_subtype_val _)

/-- A comment line that `Load` takes for an assignment, as there are blanks in front of it. -/
structure PaddedLine.Exposed (padding : PaddedLine) (key value : Bytes) : Prop where
  comment : padding.line.head? = some 35
  indented : padding.before.1 ≠ []
  assigns : assignment padding.line = some (key, value)

/-- A key of an exposed comment is set again by a later line, or it has the value of the
comment from the lines before. -/
def Spared (paddings : List PaddedLine) (key : Bytes) : Prop :=
  ∀ front padding rest value, paddings = front ++ padding :: rest → padding.Exposed key value →
    (∃ later ∈ rest, ∃ other, setting later.padded = some (key, other)) ∨
      Table.lastValue (front.filterMap (setting ·.line)) key = some value

variable {padding : PaddedLine} {paddings : List PaddedLine} {key value : Bytes}

theorem PaddedLine.Exposed.setting_line (exposed : padding.Exposed key value) :
    setting padding.line = none := by
  rw [setting, if_pos exposed.comment]

theorem PaddedLine.Exposed.setting_padded (exposed : padding.Exposed key value) :
    setting padding.padded = some (key, value) := by
  rw [PaddedLine.padded, setting_of_blank padding.before.2 exposed.indented,
    assignment_append padding.before.2 padding.after.2, exposed.assigns]

/-- Blanks change what a line sets only where they expose a comment. -/
theorem setting_padded_cases (padding : PaddedLine) :
    setting padding.padded = setting padding.line ∨ ∃ key value, padding.Exposed key value := by
  have assigned : assignment padding.padded = assignment padding.line :=
    assignment_append padding.before.2 padding.after.2
  by_cases bare : padding.before.1 = []
  · left
    cases line : padding.line with
    | nil =>
      have blank : ∀ c ∈ padding.padded, c ∈ blanks := by
        simpa [PaddedLine.padded, bare, line] using padding.after.2
      have unassigned := assignment_of_blank blank
      rw [setting_nil, setting, unassigned, ite_self]
    | cons head rest =>
      have first : padding.padded.head? = padding.line.head? := by
        simp [PaddedLine.padded, bare, line]
      rw [← line, setting, setting, first, assigned]
  · have shown : setting padding.padded = assignment padding.padded :=
      setting_of_blank padding.before.2 bare _
    by_cases comment : padding.line.head? = some 35
    · cases found : assignment padding.line with
      | none =>
        left
        rw [shown, assigned, found, setting, if_pos comment]
      | some entry => exact .inr ⟨entry.1, entry.2, comment, bare, found⟩
    · left
      rw [shown, assigned, setting, if_neg comment]

/-- What the lines set, before and after. -/
def plainEntries (paddings : List PaddedLine) : List (Bytes × Bytes) :=
  paddings.filterMap (setting ·.line)

def paddedEntries (paddings : List PaddedLine) : List (Bytes × Bytes) :=
  paddings.filterMap (setting ·.padded)

theorem Spared.init {front : List PaddedLine} (spared : Spared (front ++ [padding]) key)
    (other : ∀ value, setting padding.padded ≠ some (key, value)) : Spared front key := by
  intro before exposing rest value split exposed
  have longer : front ++ [padding] = before ++ exposing :: (rest ++ [padding]) := by
    rw [split, List.append_assoc, List.cons_append]
  rcases spared before exposing _ value longer exposed with ⟨later, member, entry, sets⟩ | earlier
  · rcases List.mem_append.mp member with inside | last
    · exact .inl ⟨later, inside, entry, sets⟩
    · exact absurd (List.mem_singleton.mp last ▸ sets) (other entry)
  · exact .inr earlier

/-- Where every exposed comment is spared, the blanks do not change the value of a key. -/
theorem lastValue_of_spared (spared : Spared paddings key) :
    Table.lastValue (paddedEntries paddings) key = Table.lastValue (plainEntries paddings) key := by
  induction paddings using List.reverseRecOn with
  | nil => rfl
  | append_singleton front padding ih =>
    have shown : paddedEntries (front ++ [padding]) =
        paddedEntries front ++ (setting padding.padded).toList := by
      cases sets : setting padding.padded <;> simp [paddedEntries, sets]
    have plain : plainEntries (front ++ [padding]) =
        plainEntries front ++ (setting padding.line).toList := by
      cases sets : setting padding.line <;> simp [plainEntries, sets]
    rw [shown, plain, Table.lastValue_append, Table.lastValue_append]
    by_cases sets : ∃ value, setting padding.padded = some (key, value)
    · obtain ⟨value, sets⟩ := sets
      rcases setting_padded_cases padding with same | ⟨other, entry, exposed⟩
      · rw [← same, sets]
        simp
      · obtain ⟨rfl, rfl⟩ : other = key ∧ entry = value := by
          simpa using exposed.setting_padded.symm.trans sets
        rcases spared front padding [] entry rfl exposed with ⟨later, member, -⟩ | earlier
        · cases member
        · rw [sets, exposed.setting_line]
          simpa [plainEntries] using earlier.symm
    · have other : ∀ value, setting padding.padded ≠ some (key, value) :=
        fun value same => sets ⟨value, same⟩
      rw [ih (spared.init other)]
      rcases setting_padded_cases padding with same | ⟨name, entry, exposed⟩
      · rw [same]
      · have different : name ≠ key :=
          fun same => other entry (same ▸ exposed.setting_padded)
        rw [exposed.setting_padded, exposed.setting_line]
        simp [different]

/-- What a line sets without the blanks it sets with them. -/
theorem setting_of_line {entry : Bytes × Bytes} (sets : setting padding.line = some entry) :
    setting padding.padded = some entry := by
  rcases setting_padded_cases padding with same | ⟨key, value, exposed⟩
  · rw [same, sets]
  · exact absurd (exposed.setting_line.symm.trans sets) (by simp)

theorem spared_of_lastValue
    (same : Table.lastValue (paddedEntries paddings) key =
      Table.lastValue (plainEntries paddings) key) : Spared paddings key := by
  intro front padding rest value split exposed
  by_cases later : ∃ later ∈ rest, ∃ other, setting later.padded = some (key, other)
  · exact .inl later
  · right
    have shown : Table.lastValue (paddedEntries rest) key = none := by
      rw [Table.lastValue_eq_none_iff]
      intro entry member same
      obtain ⟨line, listed, sets⟩ := List.mem_filterMap.mp member
      exact later ⟨line, listed, entry.2, by rw [sets, ← same]⟩
    have plain : Table.lastValue (plainEntries rest) key = none := by
      rw [Table.lastValue_eq_none_iff]
      intro entry member same
      obtain ⟨line, listed, sets⟩ := List.mem_filterMap.mp member
      exact later ⟨line, listed, entry.2, by rw [setting_of_line sets, ← same]⟩
    have exposing : paddedEntries paddings =
        paddedEntries front ++ ([(key, value)] ++ paddedEntries rest) := by
      simp [paddedEntries, split, exposed.setting_padded]
    have hidden : plainEntries paddings = plainEntries front ++ plainEntries rest := by
      simp [plainEntries, split, exposed.setting_line]
    rw [exposing, hidden, Table.lastValue_append, Table.lastValue_append, Table.lastValue_append,
      shown, plain] at same
    simpa [plainEntries] using same.symm

theorem lines_plainText (paddings : List PaddedLine) :
    (lines 10 (plainText paddings)).filterMap setting = plainEntries paddings := by
  have flat : ∀ part ∈ paddings.map PaddedLine.line, 10 ∉ part := by
    intro part member
    obtain ⟨padding, -, rfl⟩ := List.mem_map.mp member
    exact padding.flat
  rw [plainText, filterMap_lines_join setting_nil flat, List.filterMap_map]
  rfl

theorem lines_paddedText (paddings : List PaddedLine) :
    (lines 10 (paddedText paddings)).filterMap setting = paddedEntries paddings := by
  have flat : ∀ part ∈ paddings.map PaddedLine.padded, 10 ∉ part := by
    intro part member
    obtain ⟨padding, -, rfl⟩ := List.mem_map.mp member
    simp [PaddedLine.padded, padding.before.flat, padding.flat, padding.after.flat]
  rw [paddedText, filterMap_lines_join setting_nil flat, List.filterMap_map]
  rfl

/-- Blanks at the ends of the lines of a text leave the map as it is if and only if every
comment that they expose is spared. -/
theorem padded_load_iff (paddings : List PaddedLine) (files : Bytes → Option Bytes)
    (plain padded : Bytes) (opened : files plain = some (plainText paddings))
    (other : files padded = some (paddedText paddings)) :
    ∃ first second, (XrpcConfig.load files plain).run {} = .ok () first ∧
      (XrpcConfig.load files padded).run {} = .ok () second ∧
      ((∀ key, second.configMap.find? key = first.configMap.find? key) ↔
        ∀ key, Spared paddings key) := by
  refine ⟨_, _, XrpcConfig.run_load opened {}, XrpcConfig.run_load other {}, ?_⟩
  refine forall_congr' fun key => ?_
  rw [XrpcConfig.find?_set_new, XrpcConfig.find?_set_new, lines_plainText, lines_paddedText]
  exact ⟨spared_of_lastValue, lastValue_of_spared⟩

/-- A comment, a pair and a malformed line, all with blanks around them. -/
def logPaddings : List PaddedLine :=
  let tab : Blanks := ⟨[9], by simp⟩
  let space : Blanks := ⟨[32], by simp⟩
  [⟨space, text "# Log settings", tab, by decide +kernel⟩,
    ⟨tab, text "log_level=debug", space, by decide +kernel⟩,
    ⟨tab, text "log_file", tab, by decide +kernel⟩]

/-- A text in the file `a`, and with its blanks in every other. -/
def twoFiles (paddings : List PaddedLine) (name : Bytes) : Option Bytes :=
  some (if name = text "a" then plainText paddings else paddedText paddings)

theorem logPaddings_loaded :
    ∃ first second,
      (XrpcConfig.load (twoFiles logPaddings) (text "a")).run {} = .ok () first ∧
      (XrpcConfig.load (twoFiles logPaddings) (text "b")).run {} = .ok () second ∧
      ∀ key, second.configMap.find? key = first.configMap.find? key := by
  obtain ⟨first, second, loaded, again, same⟩ := padded_load_iff logPaddings
    (twoFiles logPaddings) (text "a") (text "b") rfl rfl
  refine ⟨first, second, loaded, again, same.mpr ?_⟩
  intro key front padding rest value split exposed
  have plain : ∀ padding ∈ logPaddings,
      padding.line.head? = some 35 → assignment padding.line = none := by
    decide
  have unassigned := plain padding (by simp [split]) exposed.comment
  exact absurd (unassigned.symm.trans exposed.assigns) (by simp)

/-- A comment with a blank in front of it is read as the assignment behind it. -/
theorem indented_comment_loaded :
    ¬ ∀ (paddings : List PaddedLine) (files : Bytes → Option Bytes) (plain padded : Bytes)
      (first second : XrpcConfig), files plain = some (plainText paddings) →
      files padded = some (paddedText paddings) →
      (XrpcConfig.load files plain).run {} = .ok () first →
      (XrpcConfig.load files padded).run {} = .ok () second →
      ∀ key, second.configMap.find? key = first.configMap.find? key := by
  intro same
  let indented : List PaddedLine :=
    [⟨⟨[32], by simp⟩, text "#log_level=debug", ⟨[], by simp⟩, by decide +kernel⟩]
  have plain : twoFiles indented (text "a") = some (plainText indented) := rfl
  have padded : twoFiles indented (text "b") = some (paddedText indented) := rfl
  have equal := same indented (twoFiles indented) _ _ _ _ plain padded
    (XrpcConfig.run_load plain {}) (XrpcConfig.run_load padded {}) (text "#log_level")
  rw [XrpcConfig.find?_set_new, XrpcConfig.find?_set_new, lines_plainText, lines_paddedText] at equal
  exact absurd equal (by decide)

end Padding

end Xrpc
