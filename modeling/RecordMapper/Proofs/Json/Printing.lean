import RecordMapper.Proofs.Json.Order
import RecordMapper.Proofs.Json.Strings
import RecordMapper.Proofs.Steps

/-!
# Values that are printed and read

A printed value is read wherever the reader takes a value, whatever comes after it: its items and
entries come one after the other, and each leaves the reader where the next one may come
(`Json.readsBack_of_textual`). So reading undoes printing up to the order of the entries, for values
without numbers that do not open too many arrays and objects inside each other (`Json.read_pretty`).
-/

namespace RecordMapper.Json

open RecordMapper.Text

/-! ## Reading on -/

/-- The state of the reader after some more text. -/
def Reader.after (reader : Reader) (bytes : List UInt8) : Except Fault Reader :=
  (tokens bytes).foldlM Reader.step reader

namespace Reader

variable {reader next : Reader} {frames : List Frame} {expected : Expected} {b : UInt8}
  {rest : List UInt8}

theorem after_nil (reader : Reader) : reader.after [] = .ok reader := by
  rw [after, tokens]
  rfl

theorem after_space (space : isSpace b = true) : reader.after (b :: rest) = reader.after rest := by
  rw [after, tokens, if_pos space]
  rfl

/-- Spaces at the end change nothing. -/
theorem after_spaces (reader : Reader) {bytes : List UInt8}
    (spaces : ∀ b ∈ bytes, isSpace b = true) : reader.after bytes = .ok reader := by
  induction bytes with
  | nil => exact reader.after_nil
  | cons b rest ih =>
      rw [List.forall_mem_cons] at spaces
      rw [after_space spaces.1, ih spaces.2]

/-- One token is taken, and the reading goes on behind it. -/
theorem after_token (noSpace : isSpace b = false) {lexeme : Lexeme} {more : List UInt8}
    (read : readLexeme b rest = (lexeme, more)) (taken : reader.step ⟨lexeme, rest⟩ = .ok next) :
    reader.after (b :: rest) = next.after more := by
  rw [after, tokens, if_neg (by simp [noSpace]), read, List.foldlM_cons, taken]
  rfl

/-- The texts of the marks. -/
inductive Mark : String → Lexeme → Prop
  | openArray : Mark "[" .openArray
  | closeArray : Mark "]" .closeArray
  | openObject : Mark "\x7b" .openObject
  | closeObject : Mark "\x7d" .closeObject
  | comma : Mark "," .comma
  | colon : Mark ":" .colon

theorem after_mark {text : String} {lexeme : Lexeme} (mark : Mark text lexeme)
    (taken : ∀ more, reader.step ⟨lexeme, more⟩ = .ok next) (rest : List UInt8) :
    reader.after (Utf8.encode text ++ rest) = next.after rest := by
  cases mark <;> exact after_token rfl rfl (taken rest)

/-- Line breaks and indentation do not count. -/
theorem after_lineBreak (reader : Reader) (level : Nat) (rest : List UInt8) :
    reader.after (Utf8.encode (lineBreak level) ++ rest) = reader.after rest := by
  have spaces (count : Nat) (rest : List UInt8) :
      reader.after ((List.replicate count ' ').flatMap String.utf8EncodeChar ++ rest) =
        reader.after rest := by
    induction count with
    | zero => rfl
    | succ count ih =>
        rw [List.replicate_succ, List.flatMap_cons, List.append_assoc]
        exact (after_space rfl).trans ih
  rw [lineBreak, Utf8.encode, String.toList_ofList, List.flatMap_cons, List.append_assoc]
  exact (after_space rfl).trans (spaces _ _)

/-- Where a value may come next. -/
inductive TakesValue : Expected → Prop
  | value : TakesValue .value
  | firstItem : TakesValue .firstItem
  | nextItem : TakesValue .nextItem

/-- Where a value may come next, a token that does not close an array begins one. -/
theorem step_of_takesValue (takes : TakesValue expected) {token : Token}
    (noClose : token.lexeme ≠ .closeArray) :
    step ⟨frames, expected⟩ token = takeValue frames token := by
  obtain ⟨lexeme, behind⟩ := token
  cases takes with
  | value => rfl
  | firstItem => cases lexeme <;> first | rfl | exact absurd rfl noClose
  | nextItem => cases lexeme <;> first | rfl | exact absurd rfl noClose

/-- A printed string is taken as a string. -/
theorem after_stringText {text : String}
    (taken : ∀ more, reader.step ⟨.string text, more⟩ = .ok next) (rest : List UInt8) :
    reader.after (Utf8.encode (stringText text) ++ rest) = next.after rest := by
  have bytes : Utf8.encode (stringText text) ++ rest =
      0x22 :: ((text.toList.flatMap escapeChar).flatMap String.utf8EncodeChar ++ 0x22 :: rest) := by
    rw [Utf8.encode, stringText, String.toList_ofList, List.cons_append, List.flatMap_cons,
      List.flatMap_append, List.append_assoc, List.append_assoc]
    rfl
  rw [bytes]
  exact after_token rfl (stringLexeme_escaped text rest) (taken _)

end Reader

/-! ## Values -/

/-- A value without numbers. -/
inductive Textual : Json → Prop
  | null : Textual .null
  | bool (value : Bool) : Textual (.bool value)
  | string (text : String) : Textual (.string text)
  | array {items : List Json} : (∀ item ∈ items, Textual item) → Textual (.array items)
  | object {entries : List (String × Json)} : (∀ entry ∈ entries, Textual entry.2) →
      Textual (.object entries)

theorem Textual.map {α : Type} {write : α → Json} (textual : ∀ value, (write value).Textual)
    (values : List α) : (Json.array (values.map write)).Textual := by
  refine .array fun item member => ?_
  obtain ⟨value, -, rfl⟩ := List.mem_map.mp member
  exact textual value

mutual

/-- The number of arrays and objects that are inside each other. -/
def depth : Json → Nat
  | .array items => depthItems items + 1
  | .object entries => depthEntries entries + 1
  | _ => 0

/-- The depth of the deepest item. -/
def depthItems : List Json → Nat
  | [] => 0
  | item :: rest => max item.depth (depthItems rest)

/-- The depth of the deepest value of an entry. -/
def depthEntries : List (String × Json) → Nat
  | [] => 0
  | (_, value) :: rest => max value.depth (depthEntries rest)

end

/-- Items are as deep as the deepest of them. -/
theorem depthItems_le {items : List Json} {bound : Nat}
    (each : ∀ item ∈ items, item.depth ≤ bound) : depthItems items ≤ bound := by
  induction items with
  | nil => exact Nat.zero_le bound
  | cons item rest ih =>
      rw [List.forall_mem_cons] at each
      exact Nat.max_le.mpr ⟨each.1, ih each.2⟩

open Reader

/-! ## Brackets and marks -/

section

variable {frames : List Frame} {expected : Expected}

theorem step_openArray (takes : TakesValue expected) (shallow : frames.length < maxDepth)
    (after : List UInt8) :
    Reader.step ⟨frames, expected⟩ ⟨.openArray, after⟩ = .ok ⟨.array [] :: frames, .firstItem⟩ := by
  refine (step_of_takesValue takes ?_).trans (if_neg (by omega))
  exact nofun

theorem step_openObject (takes : TakesValue expected) (shallow : frames.length < maxDepth)
    (after : List UInt8) :
    Reader.step ⟨frames, expected⟩ ⟨.openObject, after⟩ =
      .ok ⟨.object [] "" :: frames, .firstKey⟩ := by
  refine (step_of_takesValue takes ?_).trans (if_neg (by omega))
  exact nofun

theorem encode_block_nil (left right : String) (level : Nat) (rest : List UInt8) :
    Utf8.encode (block left right level []) ++ rest =
      Utf8.encode left ++ (Utf8.encode right ++ rest) := by
  rw [block, List.isEmpty_nil, if_pos rfl, Utf8.encode_append, List.append_assoc]

theorem encode_block_cons (left right : String) (level : Nat) (part : String) (parts : List String)
    (rest : List UInt8) :
    Utf8.encode (block left right level (part :: parts)) ++ rest =
      Utf8.encode left ++ (Utf8.encode (lineBreak (level + 1)) ++
        (Utf8.encode (("," ++ lineBreak (level + 1)).intercalate (part :: parts)) ++
          (Utf8.encode (lineBreak level) ++ (Utf8.encode right ++ rest)))) := by
  rw [block, List.isEmpty_cons, if_neg Bool.false_ne_true]
  simp only [Utf8.encode_append, List.append_assoc]

/-- The text from one part of a block on, if there is another one. -/
theorem encode_intercalate_cons_cons (level : Nat) (part next : String) (parts : List String)
    (rest : List UInt8) :
    Utf8.encode (("," ++ lineBreak level).intercalate (part :: next :: parts)) ++ rest =
      Utf8.encode part ++ (Utf8.encode "," ++ (Utf8.encode (lineBreak level) ++
        (Utf8.encode (("," ++ lineBreak level).intercalate (next :: parts)) ++ rest))) := by
  rw [String.intercalate_cons_cons]
  simp only [Utf8.encode_append, List.append_assoc]

end

/-! ## The round trip -/

/-- A value that is read, when it is printed, wherever a value may come and whatever comes after
it. -/
def ReadsBack (value : Json) : Prop :=
  ∀ (level : Nat) {frames : List Frame} {expected : Expected}, TakesValue expected →
    frames.length + value.depth ≤ maxDepth → ∀ rest : List UInt8,
    Reader.after ⟨frames, expected⟩ (Utf8.encode (prettyAt level value) ++ rest) =
      (complete frames value.sorted).after rest

/-- Printed items are read one after the other, up to the end of their array. -/
theorem after_prettyItems {item : Json} {others : List Json}
    (each : ∀ value ∈ item :: others, value.ReadsBack) {frames : List Frame}
    {expected : Expected} (takes : TakesValue expected)
    (shallow : frames.length + 1 + depthItems (item :: others) ≤ maxDepth) (done : List Json)
    (level outer : Nat) (rest : List UInt8) :
    Reader.after ⟨.array done :: frames, expected⟩
        (Utf8.encode (("," ++ lineBreak level).intercalate (prettyItems level (item :: others))) ++
          (Utf8.encode (lineBreak outer) ++ (Utf8.encode "]" ++ rest))) =
      (complete frames (.array (done.reverse ++ sortedItems (item :: others)))).after rest := by
  induction others generalizing item expected done with
  | nil =>
      have shallowItem : (Frame.array done :: frames).length + item.depth ≤ maxDepth := by
        rw [depthItems] at shallow
        rw [List.length_cons]
        omega
      rw [prettyItems, prettyItems, String.intercalate_singleton,
        each item List.mem_cons_self level takes shallowItem, after_lineBreak,
        after_mark .closeArray fun _ => rfl, List.reverse_cons]
      rfl
  | cons next more ih =>
      rw [depthItems] at shallow
      have shallowItem : (Frame.array done :: frames).length + item.depth ≤ maxDepth := by
        rw [List.length_cons]
        omega
      have others := @ih next (fun value member => each value (.tail _ member)) .nextItem .nextItem
        (by omega) (item.sorted :: done)
      rw [prettyItems, prettyItems, encode_intercalate_cons_cons, ← prettyItems,
        each item List.mem_cons_self level takes shallowItem, after_mark .comma fun _ => rfl,
        after_lineBreak, others, List.reverse_cons, List.append_assoc]
      rfl

/-- A printed entry is read, and its value goes to its key. -/
theorem after_prettyEntry {key : String} {value : Json} (back : value.ReadsBack)
    {frames : List Frame} {reader : Reader} {done : List (String × Json)}
    (takes : ∀ more, reader.step ⟨.string key, more⟩ = .ok ⟨.object done key :: frames, .colon⟩)
    (shallow : frames.length + 1 + value.depth ≤ maxDepth) (level : Nat) (rest : List UInt8) :
    reader.after (Utf8.encode (stringText key ++ ": " ++ prettyAt level value) ++ rest) =
      Reader.after
        ⟨.object (putEntry key value.sorted done) key :: frames, .afterValue value.sorted⟩ rest := by
  have space (reader : Reader) (rest : List UInt8) :
      reader.after (Utf8.encode ": " ++ rest) = reader.after (Utf8.encode ":" ++ 0x20 :: rest) :=
    rfl
  have shallowValue : (Frame.object done key :: frames).length + value.depth ≤ maxDepth := by
    rw [List.length_cons]
    omega
  rw [Utf8.encode_append, Utf8.encode_append, List.append_assoc, List.append_assoc,
    after_stringText takes, space, after_mark .colon fun _ => rfl, after_space rfl,
    back level .value shallowValue]
  rfl

/-- Printed entries are read one after the other, up to the end of their object. The first one
stands where the reader takes a key, after the entries in `done`. -/
theorem after_prettyEntries {entry : String × Json} {others : List (String × Json)}
    (each : ∀ other ∈ entry :: others, other.2.ReadsBack) {frames : List Frame} {reader : Reader}
    {done : List (String × Json)}
    (takes : ∀ key more,
      reader.step ⟨.string key, more⟩ = .ok ⟨.object done key :: frames, .colon⟩)
    (shallow : frames.length + 1 + depthEntries (entry :: others) ≤ maxDepth)
    (level outer : Nat) (rest : List UInt8) :
    reader.after
        (Utf8.encode
            (("," ++ lineBreak level).intercalate (prettyEntries level (entry :: others))) ++
          (Utf8.encode (lineBreak outer) ++ (Utf8.encode "\x7d" ++ rest))) =
      (complete frames (.object (sortedEntries done (entry :: others)))).after rest := by
  induction others generalizing entry reader done with
  | nil =>
      obtain ⟨key, value⟩ := entry
      have back : value.ReadsBack := each _ List.mem_cons_self
      rw [depthEntries] at shallow
      have shallowEntry : frames.length + 1 + value.depth ≤ maxDepth := by omega
      rw [prettyEntries, prettyEntries, String.intercalate_singleton,
        after_prettyEntry back (takes key) shallowEntry, after_lineBreak,
        after_mark .closeObject fun _ => rfl]
      rfl
  | cons next more ih =>
      obtain ⟨key, value⟩ := entry
      have back : value.ReadsBack := each _ List.mem_cons_self
      rw [depthEntries] at shallow
      have shallowEntry : frames.length + 1 + value.depth ≤ maxDepth := by omega
      -- After the comma the next key is taken behind the entries so far.
      have others := @ih next (fun other member => each other (.tail _ member))
        ⟨.object (putEntry key value.sorted done) key :: frames,
          .nextKey (putEntry key value.sorted done)⟩
        (putEntry key value.sorted done) (fun _ _ => rfl) (by omega)
      rw [prettyEntries, prettyEntries, encode_intercalate_cons_cons, ← prettyEntries,
        after_prettyEntry back (takes key) shallowEntry,
        after_mark .comma fun _ => rfl, after_lineBreak, others]
      rfl

theorem readsBack_array {items : List Json} (each : ∀ item ∈ items, item.ReadsBack) :
    ReadsBack (.array items) := by
  intro level frames expected takes shallow rest
  rw [depth] at shallow
  have opened := step_openArray takes (show frames.length < maxDepth by omega)
  cases items with
  | nil =>
      rw [prettyAt, prettyItems, encode_block_nil, after_mark .openArray opened,
        after_mark .closeArray fun _ => rfl, sorted, sortedItems, List.tail_cons]
  | cons item others =>
      rw [prettyAt, prettyItems, encode_block_cons, ← prettyItems, after_mark .openArray opened,
        after_lineBreak, after_prettyItems each .firstItem (by omega)]
      rfl

theorem readsBack_object {entries : List (String × Json)}
    (each : ∀ entry ∈ entries, entry.2.ReadsBack) : ReadsBack (.object entries) := by
  intro level frames expected takes shallow rest
  rw [depth] at shallow
  have opened := step_openObject takes (show frames.length < maxDepth by omega)
  cases entries with
  | nil =>
      rw [prettyAt, prettyEntries, encode_block_nil, after_mark .openObject opened,
        after_mark .closeObject fun _ => rfl, sorted, sortedEntries, List.tail_cons]
  | cons entry others =>
      have takesKey (key : String) (more : List UInt8) :
          Reader.step ⟨.object [] "" :: frames, .firstKey⟩ ⟨.string key, more⟩ =
            .ok ⟨.object [] key :: frames, .colon⟩ := rfl
      have room : frames.length + 1 + depthEntries (entry :: others) ≤ maxDepth := by omega
      rw [prettyAt, prettyEntries, encode_block_cons, ← prettyEntries,
        after_mark .openObject opened, after_lineBreak, after_prettyEntries each takesKey room]
      rfl

/-- **A printed value is read back**, if it has no numbers. -/
theorem readsBack_of_textual {value : Json} (textual : value.Textual) : value.ReadsBack := by
  induction textual with
  | null =>
      intro level frames expected takes shallow rest
      have word : readLexeme 0x6E (0x75 :: 0x6C :: 0x6C :: rest) = (.scalar .null, rest) := rfl
      rw [prettyAt]
      exact after_token rfl word (step_of_takesValue takes nofun)
  | bool value =>
      intro level frames expected takes shallow rest
      rw [prettyAt]
      cases value with
      | true =>
          have word : readLexeme 0x74 (0x72 :: 0x75 :: 0x65 :: rest) =
            (.scalar (.bool true), rest) := rfl
          exact after_token rfl word (step_of_takesValue takes nofun)
      | false =>
          have word : readLexeme 0x66 (0x61 :: 0x6C :: 0x73 :: 0x65 :: rest) =
            (.scalar (.bool false), rest) := rfl
          exact after_token rfl word (step_of_takesValue takes nofun)
  | string text =>
      intro level frames expected takes shallow rest
      rw [prettyAt]
      exact after_stringText (fun more => step_of_takesValue takes nofun) rest
  | array _ each => exact readsBack_array each
  | object _ each => exact readsBack_object each

/-- **Reading undoes printing.** A value without numbers that is not too deep is read from its
printed text, with its objects in order, whatever space comes after it. -/
theorem read_pretty_append {value : Json} (textual : value.Textual)
    (shallow : value.depth ≤ maxDepth) {more : List UInt8}
    (spaces : ∀ b ∈ more, isSpace b = true) :
    read (Utf8.encode value.pretty ++ more) = .ok value.sorted := by
  have room : ([] : List Frame).length + value.depth ≤ maxDepth := by
    rw [List.length_nil]
    omega
  have back := readsBack_of_textual textual 0 .value room more
  rw [after_spaces _ spaces] at back
  have text : readTokens (Utf8.encode value.pretty ++ more) = .ok value.sorted := by
    change Reader.after .start (Utf8.encode value.pretty ++ more) >>= Reader.finish = _
    rw [bind_eq_ok_iff]
    exact ⟨_, back, rfl⟩
  rw [read, text]
  rfl

theorem read_pretty {value : Json} (textual : value.Textual) (shallow : value.depth ≤ maxDepth) :
    read (Utf8.encode value.pretty) = .ok value.sorted := by
  have back := read_pretty_append textual shallow (List.forall_mem_nil (isSpace · = true))
  rwa [List.append_nil] at back

end RecordMapper.Json
