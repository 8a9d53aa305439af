import Mathlib.Data.String.Basic
import RecordMapper.Json.Reader
import RecordMapper.Proofs.Steps

/-!
# Objects in order

The reader puts the entries of an object in order and keeps the last one of each key. So whatever is
read has each key once, with the keys in ascending order, at every level (`Json.ordered_of_read`).
`Json.sorted` puts any value in this order.
-/

namespace RecordMapper.Json

mutual

/-- The value with its objects as the reader makes them: each key once, with the value of its last
entry, and the keys in ascending order. -/
def sorted : Json → Json
  | .array items => .array (sortedItems items)
  | .object entries => .object (sortedEntries [] entries)
  | value => value

/-- The items with all objects inside them in order. -/
def sortedItems : List Json → List Json
  | [] => []
  | item :: rest => item.sorted :: sortedItems rest

/-- Puts the entries into `earlier` one after the other. -/
def sortedEntries (earlier : List (String × Json)) : List (String × Json) → List (String × Json)
  | [] => earlier
  | (key, value) :: rest => sortedEntries (putEntry key value.sorted earlier) rest

end

theorem sortedItems_eq_map (items : List Json) : sortedItems items = items.map sorted := by
  induction items with
  | nil => rfl
  | cons item rest ih => rw [sortedItems, ih, List.map_cons]

/-! ## Values in order -/

/-- A value in which every object has ascending keys. -/
inductive Ordered : Json → Prop
  | null : Ordered .null
  | bool (value : Bool) : Ordered (.bool value)
  | number (value : JsonNumber) : Ordered (.number value)
  | string (text : String) : Ordered (.string text)
  | array {items : List Json} : (∀ item ∈ items, Ordered item) → Ordered (.array items)
  | object {entries : List (String × Json)} :
      entries.Pairwise (fun entry later => entry.1 < later.1) →
      (∀ entry ∈ entries, Ordered entry.2) → Ordered (.object entries)

/-- Entries of an object in order. -/
structure OrderedEntries (entries : List (String × Json)) : Prop where
  keys : entries.Pairwise fun entry later => entry.1 < later.1
  values : ∀ entry ∈ entries, entry.2.Ordered

theorem OrderedEntries.nil : OrderedEntries [] :=
  ⟨.nil, nofun⟩

theorem mem_putEntry {key : String} {value : Json} {entries : List (String × Json)}
    {entry : String × Json} (member : entry ∈ putEntry key value entries) :
    entry = (key, value) ∨ entry ∈ entries := by
  fun_induction putEntry key value entries with
  | case1 => exact .inl (List.mem_singleton.mp member)
  | case2 held rest => exact (List.mem_cons.mp member).imp_right (.tail _)
  | case3 other held rest => exact List.mem_cons.mp member
  | case4 other held rest _ _ ih =>
      rcases List.mem_cons.mp member with rfl | later
      · exact .inr List.mem_cons_self
      · exact (ih later).imp_right (.tail _)

/-- An entry that is put in keeps the entries in order. -/
theorem OrderedEntries.putEntry {entries : List (String × Json)} (ordered : OrderedEntries entries)
    (key : String) {value : Json} (own : value.Ordered) :
    OrderedEntries (putEntry key value entries) := by
  refine ⟨?keys, ?values⟩
  case values =>
    intro entry member
    rcases mem_putEntry member with rfl | member
    · exact own
    · exact ordered.values entry member
  case keys =>
    have keys := ordered.keys
    clear ordered
    fun_induction Json.putEntry key value entries with
    | case1 => exact List.pairwise_singleton _ _
    | case2 held rest =>
        rw [List.pairwise_cons] at keys ⊢
        exact keys
    | case3 other held rest apart before =>
        refine List.pairwise_cons.mpr ⟨?_, keys⟩
        intro entry member
        rcases List.mem_cons.mp member with rfl | later
        · exact before
        · exact before.trans (List.rel_of_pairwise_cons keys later)
    | case4 other held rest apart notBefore ih =>
        rw [List.pairwise_cons] at keys ⊢
        refine ⟨?_, ih keys.2⟩
        intro entry member
        rcases mem_putEntry member with rfl | later
        · exact lt_of_le_of_ne (not_lt.mp notBefore) (Ne.symm apart)
        · exact keys.1 entry later

/-! ## What is read -/

/-- What is read of an array or an object so far is in order. -/
def Frame.Ordered : Frame → Prop
  | .array items => ∀ item ∈ items, item.Ordered
  | .object entries _ => OrderedEntries entries

/-- A complete value, or the entries before the next key, are in order. -/
def Expected.Ordered : Expected → Prop
  | .nextKey entries => OrderedEntries entries
  | .afterValue complete => complete.Ordered
  | _ => True

/-- A state in which everything that was read is in order. -/
structure Reader.Ordered (reader : Reader) : Prop where
  frames : ∀ frame ∈ reader.open?, frame.Ordered
  expected : reader.expected.Ordered

/-- The value of a lexeme, if it has one, is in order. -/
def Lexeme.Ordered : Lexeme → Prop
  | .scalar value => value.Ordered
  | _ => True

/-- Tokens hold no objects. -/
theorem ordered_readLexeme (first : UInt8) (rest : List UInt8) :
    (readLexeme first rest).1.Ordered := by
  have word (value : Json) (own : value.Ordered) (letters : List Char) :
      (wordLexeme value letters rest).1.Ordered := by
    unfold wordLexeme
    cases scanWord letters rest with
    | ok rest => exact own
    | error fault => trivial
  have number : (numberLexeme (first :: rest)).1.Ordered := by
    unfold numberLexeme
    rcases scanNumber (first :: rest) with fault | ⟨scanned, behind⟩
    · trivial
    · exact .number scanned
  have text : (stringLexeme rest).1.Ordered := by
    unfold stringLexeme
    rcases scanString rest with fault | ⟨bytes, behind⟩
    · trivial
    · dsimp only
      cases Text.Utf8.decode? bytes <;> trivial
  have either {condition : Prop} [Decidable condition] {first second : Lexeme × List UInt8}
      (one : first.1.Ordered) (other : second.1.Ordered) :
      (if condition then first else second).1.Ordered := by
    split
    · exact one
    · exact other
  unfold readLexeme
  -- The six marks, strings, the three words, numbers, and bytes that begin nothing.
  exact either trivial <| either trivial <| either trivial <| either trivial <| either trivial <|
    either trivial <| either text <| either (word _ .null _) <| either (word _ (.bool _) _) <|
    either (word _ (.bool _) _) <| either number trivial

theorem ordered_of_mem_tokens {bytes : List UInt8} {token : Token}
    (member : token ∈ tokens bytes) : token.lexeme.Ordered := by
  fun_induction tokens bytes with
  | case1 => cases member
  | case2 first rest space ih => exact ih member
  | case3 first rest space ih =>
      rcases List.mem_cons.mp member with rfl | later
      · exact ordered_readLexeme first rest
      · exact ih later

namespace Reader

variable {reader next : Reader} {frames : List Frame} {token : Token}

theorem ordered_complete (ordered : ∀ frame ∈ frames, frame.Ordered) {value : Json}
    (own : value.Ordered) : (complete frames value).Ordered := by
  match frames with
  | [] => exact ⟨nofun, own⟩
  | .array items :: outer =>
    rw [List.forall_mem_cons] at ordered
    refine ⟨?_, own⟩
    exact List.forall_mem_cons.mpr ⟨List.forall_mem_cons.mpr ⟨own, ordered.1⟩, ordered.2⟩
  | .object entries key :: outer =>
    rw [List.forall_mem_cons] at ordered
    have inner : OrderedEntries entries := ordered.1
    exact ⟨List.forall_mem_cons.mpr ⟨inner.putEntry key own, ordered.2⟩, own⟩

theorem descend_eq_ok_iff {frame : Frame} {expected : Expected} {after : List UInt8} :
    descend frames frame expected after = .ok next ↔
      frames.length < maxDepth ∧ ⟨frame :: frames, expected⟩ = next := by
  unfold descend
  by_cases deep : maxDepth ≤ frames.length
  · simp [deep, failBefore, Nat.not_lt.mpr deep]
  · simp [deep, Nat.not_le.mp deep]

theorem ordered_takeValue (ordered : ∀ frame ∈ frames, frame.Ordered)
    (own : token.lexeme.Ordered) (taken : takeValue frames token = .ok next) : next.Ordered := by
  obtain ⟨lexeme, behind⟩ := token
  cases lexeme with
  | string text =>
      cases taken
      exact ordered_complete ordered (.string text)
  | scalar value =>
      cases taken
      exact ordered_complete ordered own
  | openArray =>
      obtain ⟨-, rfl⟩ := descend_eq_ok_iff.mp taken
      exact ⟨List.forall_mem_cons.mpr ⟨nofun, ordered⟩, trivial⟩
  | openObject =>
      obtain ⟨-, rfl⟩ := descend_eq_ok_iff.mp taken
      exact ⟨List.forall_mem_cons.mpr ⟨.nil, ordered⟩, trivial⟩
  | _ => cases taken

/-- One token keeps everything in order. -/
theorem Ordered.step (ordered : reader.Ordered) (own : token.lexeme.Ordered)
    (taken : reader.step token = .ok next) : next.Ordered := by
  obtain ⟨frames, expected⟩ := reader
  have inner : ∀ frame ∈ frames, frame.Ordered := ordered.frames
  have outer : ∀ frame ∈ frames.tail, frame.Ordered :=
    fun frame member => inner frame (List.mem_of_mem_tail member)
  obtain ⟨lexeme, behind⟩ := token
  cases expected with
  | value => exact ordered_takeValue inner own taken
  | firstItem =>
      cases lexeme with
      | closeArray =>
          cases taken
          exact ordered_complete outer (.array nofun)
      | _ => exact ordered_takeValue inner own taken
  | nextItem =>
      cases lexeme with
      | closeArray => cases taken
      | _ => exact ordered_takeValue inner own taken
  | firstKey =>
      cases lexeme with
      | closeObject =>
          cases taken
          exact ordered_complete outer (.object .nil nofun)
      | string key =>
          cases taken
          exact ⟨List.forall_mem_cons.mpr ⟨.nil, outer⟩, trivial⟩
      | _ => cases taken
  | nextKey entries =>
      have held : OrderedEntries entries := ordered.expected
      cases lexeme with
      | string key =>
          cases taken
          exact ⟨List.forall_mem_cons.mpr ⟨held, outer⟩, trivial⟩
      | _ => cases taken
  | colon =>
      cases lexeme with
      | colon =>
          cases taken
          exact ⟨inner, trivial⟩
      | _ => cases taken
  | afterValue value =>
      match frames with
      | [] => cases taken
      | .array items :: rest =>
          obtain ⟨each, others⟩ := List.forall_mem_cons.mp inner
          cases lexeme with
          | comma =>
              cases taken
              exact ⟨inner, trivial⟩
          | closeArray =>
              cases taken
              refine ordered_complete others (.array fun item member => each item ?_)
              exact List.mem_reverse.mp member
          | _ => cases taken
      | .object entries key :: rest =>
          obtain ⟨each, others⟩ := List.forall_mem_cons.mp inner
          have held : OrderedEntries entries := each
          cases lexeme with
          | comma =>
              cases taken
              exact ⟨inner, held⟩
          | closeObject =>
              cases taken
              exact ordered_complete others (.object held.keys held.values)
          | _ => cases taken

/-- All tokens keep everything in order. -/
theorem Ordered.foldlM {tokens : List Token} (ordered : reader.Ordered)
    (own : ∀ token ∈ tokens, token.lexeme.Ordered)
    (taken : tokens.foldlM Reader.step reader = .ok next) : next.Ordered := by
  induction tokens generalizing reader with
  | nil =>
      obtain rfl := Except.ok.inj taken
      exact ordered
  | cons token rest ih =>
      rw [List.forall_mem_cons] at own
      rw [List.foldlM_cons, bind_eq_ok_iff] at taken
      obtain ⟨middle, first, taken⟩ := taken
      exact ih (ordered.step own.1 first) own.2 taken

/-- A state that may end a text has nothing open and holds the value that was read. -/
theorem eq_of_finish {value : Json} (finished : reader.finish = .ok value) :
    reader = ⟨[], .afterValue value⟩ := by
  obtain ⟨frames, expected⟩ := reader
  cases expected with
  | afterValue held =>
      match frames with
      | [] =>
        cases finished
        rfl
      | .array _ :: _ => cases finished
      | .object .. :: _ => cases finished
  | _ => cases finished

end Reader

/-- **What is read is in order.** Every object has each key once, and its keys ascend. -/
theorem ordered_of_read {bytes : List UInt8} {value : Json} (success : read bytes = .ok value) :
    value.Ordered := by
  have whole : readTokens bytes = .ok value := by
    rw [read] at success
    cases result : readTokens bytes with
    | error fault => simp [result, Except.mapError] at success
    | ok found =>
        rw [result] at success
        obtain rfl := Except.ok.inj success
        rfl
  obtain ⟨last, taken, finished⟩ := bind_eq_ok_iff.mp whole
  have start : Reader.start.Ordered := ⟨fun _ => nofun, trivial⟩
  have ordered := start.foldlM (fun _ => ordered_of_mem_tokens) taken
  obtain rfl := Reader.eq_of_finish finished
  exact ordered.expected

end RecordMapper.Json
