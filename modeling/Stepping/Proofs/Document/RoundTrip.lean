import Stepping.Document.Format
import Stepping.Proofs.Document.Origins
import Stepping.Proofs.Document.Tokens

/-!
# Schedules written and read back

The text that a schedule is written as is read into the tree of its parts: a
table with the list of its segments and, if there is one, its chunk size.  The
parts are read from this tree as they were written, and since they are those of
a schedule, they make it again.

So a schedule is told by its text, and the text names a chunk size just if the
schedule has one.
-/

namespace Stepping

namespace Document

open Reading

/-! ## The tree of the text -/

namespace Json

/-- What becomes of what is being put together as a text is read on. -/
def Building.readOn (building : Building) (text : List Char) : Building :=
  (tokens text).foldl next building

namespace Building

theorem readOn_mark
    {mark : Char} {token : Token} (known : mark? mark = some token)
    (building : Building) (rest : List Char) :
    building.readOn (mark :: rest) = (building.next token).readOn rest := by
  rw [readOn, tokens_mark known]
  rfl

theorem readOn_key
    (key : String) (plain : key.toList.all isPlain)
    (building : Building) (rest : List Char) :
    building.readOn ('"' :: (key.toList ++ '"' :: rest)) =
      (building.next (.text (some key))).readOn rest := by
  rw [readOn, tokens_key plain]
  rfl

theorem readOn_written
    {mark : Char} (ends : endsNumber mark) (count : Count)
    (building : Building) (rest : List Char) :
    building.readOn (written count ++ mark :: rest) =
      (building.next (.leaf (.integer count.toNat))).readOn (mark :: rest) := by
  rw [readOn, tokens_written ends]
  rfl

end Building

/-- The node of a segment. -/
def segmentNode (segment : Segment) : Node :=
  .table
    [(some "member", .integer segment.member.toNat),
      (some "steps", .integer segment.steps.toNat)] true

/-- The field of the chunk size, if there is one. -/
def chunkFields : Option Count → List (Option String × Node)
  | none => []
  | some size => [(some "chunk", .integer size.toNat)]

/-- The node of a schedule. -/
def scheduleNode (schedule : Schedule) : Node :=
  .table
    ((some "segments", .array (schedule.segments.map segmentNode) true) ::
      chunkFields schedule.chunk) true

open Building

/-- A field of a table whose key has been announced is read up to what ends it. -/
theorem readOn_field
    (key : String) (plain : key.toList.all isPlain)
    (mark : Char) (ends : endsNumber mark) (count : Count)
    {building : Building} {fields : Fields} {stack : List Frame}
    (announced : building.next (.text (some key)) = .atColon fields (some key) stack)
    (rest : List Char) :
    building.readOn
        ('"' :: (key.toList ++ '"' :: ':' :: (written count ++ mark :: rest))) =
      (complete (.integer count.toNat) (.table fields (some key) :: stack)).readOn
        (mark :: rest) := by
  rw [readOn_key key plain, announced, readOn_mark rfl, readOn_written ends]
  rfl

/-- The text of a segment, cut at its marks. -/
theorem writtenSegment_append (segment : Segment) (rest : List Char) :
    writtenSegment segment ++ rest =
      '\x7b' :: '"' :: ("member".toList ++ '"' :: ':' ::
        (written segment.member ++ ',' :: '"' :: ("steps".toList ++ '"' :: ':' ::
          (written segment.steps ++ '}' :: rest)))) := by
  have member :
      "\x7b\"member\":".toList =
        '\x7b' :: '"' :: ("member".toList ++ ['"', ':']) := by
    decide
  have steps :
      ",\"steps\":".toList = ',' :: '"' :: ("steps".toList ++ ['"', ':']) := by
    decide
  calc
    writtenSegment segment ++ rest =
        "\x7b\"member\":".toList ++ written segment.member
          ++ ",\"steps\":".toList ++ written segment.steps ++ ['}'] ++ rest :=
      rfl
    _ = _ := by
      simp only [member, steps, List.append_assoc, List.cons_append, List.nil_append]

/-- A segment is read where its opening brace may stand. -/
theorem readOn_writtenSegment
    {segment : Segment} {building : Building} {stack : List Frame}
    (opened : building.next .openTable = .atFirstKey stack) (rest : List Char) :
    building.readOn (writtenSegment segment ++ rest) =
      (complete (segmentNode segment) stack).readOn rest := by
  rw [writtenSegment_append, readOn_mark rfl, opened,
    readOn_field "member" (by decide) ',' rfl _ rfl, readOn_mark rfl,
    readOn_field "steps" (by decide) '}' rfl _ rfl, readOn_mark rfl]
  rfl

/-- Segments behind others in an array are read up to its end. -/
theorem readOn_writtenSegments
    {segments : List Segment} {items : List Node} {stack : List Frame}
    {building : Building} (nonempty : segments ≠ [])
    (opened : building.next .openTable = .atFirstKey (.array items :: stack))
    (rest : List Char) :
    building.readOn (writtenSegments segments ++ ']' :: rest) =
      (complete (.array (items.reverse ++ segments.map segmentNode) true)
        stack).readOn rest := by
  induction segments generalizing building items with
  | nil => exact (nonempty rfl).elim
  | cons segment segments induction =>
      cases segments with
      | nil =>
          rw [writtenSegments, readOn_writtenSegment opened, readOn_mark rfl,
            List.map_singleton, ← List.reverse_cons]
          rfl
      | cons second others =>
          have behind :
              (atValue (.array (segmentNode segment :: items) :: stack)).next
                  .openTable =
                .atFirstKey (.array (segmentNode segment :: items) :: stack) :=
            rfl
          rw [writtenSegments, List.append_assoc, readOn_writtenSegment opened,
            List.cons_append, readOn_mark rfl]
          · show (atValue (.array (segmentNode segment :: items) :: stack)).readOn _ = _
            rw [induction (List.cons_ne_nil _ _) behind, List.reverse_cons,
              List.append_assoc]
            rfl
          · exact List.cons_ne_nil _ _

/-- The text of a schedule, cut at its marks. -/
theorem toList_write (schedule : Schedule) :
    (write schedule).toList =
      '\x7b' :: '"' :: ("segments".toList ++ '"' :: ':' :: '[' ::
        (writtenSegments schedule.segments ++ ']' ::
          (writtenChunk schedule.chunk ++ ['}']))) := by
  have segments :
      "\x7b\"segments\":[".toList =
        '\x7b' :: '"' :: ("segments".toList ++ ['"', ':', '[']) := by
    decide
  calc
    (write schedule).toList =
        "\x7b\"segments\":[".toList ++ writtenSegments schedule.segments ++ ']'
          :: writtenChunk schedule.chunk ++ ['}'] :=
      String.toList_ofList
    _ = _ := by
      simp only [segments, List.append_assoc, List.cons_append, List.nil_append]

/-- The text of a chunk size, cut at its marks. -/
theorem writtenChunk_some_append (size : Count) (rest : List Char) :
    writtenChunk (some size) ++ rest =
      ',' :: '"' :: ("chunk".toList ++ '"' :: ':' :: (written size ++ rest)) := by
  have chunk :
      ",\"chunk\":".toList = ',' :: '"' :: ("chunk".toList ++ ['"', ':']) := by
    decide
  calc
    writtenChunk (some size) ++ rest =
        ",\"chunk\":".toList ++ written size ++ rest :=
      rfl
    _ = _ := by
      simp only [chunk, List.append_assoc, List.cons_append, List.nil_append]

/-- A written schedule is a table of its parts, with nothing behind it. -/
theorem read_write (schedule : Schedule) :
    read (write schedule) = ⟨scheduleNode schedule, false⟩ := by
  show (readOn (.atValue []) (write schedule).toList).conclude = _
  rw [toList_write, readOn_mark rfl, readOn_key "segments" (by decide),
    readOn_mark rfl, readOn_mark rfl,
    readOn_writtenSegments schedule.nonempty rfl, scheduleNode]
  cases schedule.chunk with
  | none =>
      show (readOn _ ['}']).conclude = _
      rw [readOn_mark rfl, readOn, tokens]
      rfl
  | some size =>
      rw [writtenChunk_some_append, readOn_mark rfl,
        readOn_field "chunk" (by decide) '}' rfl _ rfl, readOn_mark rfl, readOn,
        tokens]
      rfl

/-! ## The key of the chunk size -/

/-- The letter that only the key of a chunk size has. -/
theorem k_notMem_written (count : Count) : 'k' ∉ written count := by
  intro listed
  cases isDigit_of_mem_written listed

theorem k_notMem_writtenSegments (segments : List Segment) :
    'k' ∉ writtenSegments segments := by
  have one : ∀ segment, 'k' ∉ writtenSegment segment := by
    intro segment
    rw [← List.append_nil (writtenSegment segment), writtenSegment_append]
    simp [k_notMem_written]
  induction segments with
  | nil => exact List.not_mem_nil
  | cons segment segments induction =>
      cases segments with
      | nil => exact one segment
      | cons second others =>
          rw [writtenSegments, List.mem_append, List.mem_cons]
          · rintro (first | comma | behind)
            · exact one segment first
            · cases comma
            · exact induction behind
          · exact List.cons_ne_nil _ _

/-- The text names a chunk size just if there is one. -/
theorem chunk_infix_write_iff (schedule : Schedule) :
    "\"chunk\"".toList <:+: (write schedule).toList ↔ schedule.chunk.isSome := by
  rw [toList_write]
  cases schedule.chunk with
  | none =>
      apply iff_of_false _ Bool.false_ne_true
      intro named
      have letter := named.subset (show 'k' ∈ "\"chunk\"".toList by decide)
      have empty : writtenChunk none = [] := rfl
      simp [empty, k_notMem_writtenSegments] at letter
  | some size =>
      apply iff_of_true _ rfl
      have chunk : "\"chunk\"".toList = '"' :: ("chunk".toList ++ ['"']) := by
        decide
      rw [writtenChunk_some_append, chunk]
      refine
        ⟨'\x7b' :: '"' :: ("segments".toList ++ '"' :: ':' :: '[' ::
            (writtenSegments schedule.segments ++ [']', ','])),
          ':' :: (written size ++ ['}']), ?_⟩
      simp only [List.append_assoc, List.cons_append, List.nil_append]

end Json

/-! ## The parts of the tree -/

theorem readFields_nil
    {State : Type} (accept : State → String → Node → Reading State)
    (state : State) : readFields accept [] true state = .ok state :=
  rfl

/-- A table is gone through field by field. -/
theorem readFields_cons
    {State : Type} {accept : State → String → Node → Reading State}
    {key : String} {node : Node} {state next : State}
    (accepted : accept state key node = .ok next)
    (fields : List (Option String × Node)) (closed : Bool) :
    readFields accept ((some key, node) :: fields) closed state =
      readFields accept fields closed next := by
  rw [readFields, readFields, List.foldlM_cons]
  dsimp only
  rw [accepted]
  rfl

theorem readCount_toNat (count : Count) :
    readCount (.integer count.toNat) = .ok count := by
  have small := count.toNat_lt_limit
  rw [readCount, if_neg (by omega), Int.toNat_natCast, UInt64.ofNat_toNat]

theorem readOnce_none
    {α : Type} {name : String} {read : Node → Reading α} {node : Node} {value : α}
    (made : read node = .ok value) :
    readOnce name none read node = .ok (some value) := by
  rw [readOnce, made]
  rfl

theorem readSegment_segmentNode (dialect : Dialect) (segment : Segment) :
    readSegment dialect (Json.segmentNode segment) = .ok segment := by
  have member :
      PartialSegment.accept {} "member" (.integer segment.member.toNat) =
        .ok { member := some segment.member } := by
    rw [PartialSegment.accept, readOnce_none (readCount_toNat segment.member)]
    rfl
  have steps :
      PartialSegment.accept { member := some segment.member } "steps"
          (.integer segment.steps.toNat) =
        .ok ⟨some segment.member, some segment.steps⟩ := by
    rw [PartialSegment.accept, readOnce_none (readCount_toNat segment.steps)]
    rfl
  rw [readSegment, Json.segmentNode, readRecord, readFields_cons member,
    readFields_cons steps, readFields_nil]
  rfl

/-- A list is read back if each of its values is. -/
theorem readList_map
    {α : Type} {read : Node → Reading α} {node : α → Node}
    (back : ∀ value, read (node value) = .ok value) (values : List α) :
    readList read (.array (values.map node) true) = .ok values := by
  have all : (values.map node).mapM read = .ok values := by
    induction values with
    | nil => rfl
    | cons value values induction =>
        rw [List.map_cons, List.mapM_cons, back, induction]
        rfl
  rw [readList, all]
  rfl

theorem readParts_scheduleNode (dialect : Dialect) (schedule : Schedule) :
    readParts dialect (Json.scheduleNode schedule) = .ok schedule.parts := by
  have segments :
      PartialParts.accept dialect {} "segments"
          (.array (schedule.segments.map Json.segmentNode) true) =
        .ok { segments := some schedule.segments } := by
    rw [PartialParts.accept,
      readOnce_none (readList_map (readSegment_segmentNode dialect) _)]
    rfl
  rw [readParts, Json.scheduleNode, readRecord, readFields_cons segments, Schedule.parts]
  cases schedule.chunk with
  | none => rfl
  | some size =>
      have chunk :
          PartialParts.accept dialect { segments := some schedule.segments } "chunk"
              (.integer size.toNat) =
            .ok ⟨some schedule.segments, some (some size)⟩ := by
        have read :
            readOptionalCount (.integer size.toNat) = .ok (some size) := by
          rw [readOptionalCount, readCount_toNat]
          · rfl
          · intro null
            cases null
        rw [PartialParts.accept, readOnce_none read]
        rfl
      rw [Json.chunkFields, readFields_cons chunk]
      rfl

/-- A schedule is read back from its text. -/
theorem read_write_json (schedule : Schedule) :
    Format.json.read readSchedule (Json.write schedule) = .ok schedule := by
  have made :
      readSchedule Format.json.dialect (Json.scheduleNode schedule) =
        .ok schedule :=
    readSchedule_eq_ok_iff.mpr
      ⟨schedule.parts, readParts_scheduleNode _ schedule,
        schedule.valid_parts, rfl⟩
  rw [Format.read]
  show (readSchedule Format.json.dialect
      (Json.read (Json.write schedule)).root >>= _) = _
  rw [Json.read_write, made]
  show (if (Json.read (Json.write schedule)).trailing then _ else _) = _
  rw [Json.read_write]
  rfl

end Document

open Document (Format readSchedule)

/--
What is written of a schedule is read back as this schedule.  The document that
is written names a chunk size just if there is one, and no other schedule is
written alike.
-/
theorem Schedule.reads_as_written (schedule : Schedule) :
    Format.json.read readSchedule (Document.Json.write schedule) = .ok schedule ∧
    (∃ fields,
      Format.json.tree (Document.Json.write schedule) =
          ⟨.table fields true, false⟩ ∧
        fields.map Prod.fst =
          some "segments" ::
            if schedule.chunk.isSome then [some "chunk"] else []) ∧
    ("\"chunk\"".toList <:+: (Document.Json.write schedule).toList ↔
      schedule.chunk.isSome) ∧
    ∀ other : Schedule,
      schedule = other ↔
        Document.Json.write schedule = Document.Json.write other := by
  refine ⟨Document.read_write_json schedule, ?_, ?_, ?_⟩
  · refine ⟨_, Document.Json.read_write schedule, ?_⟩
    cases schedule.chunk <;> rfl
  · exact Document.Json.chunk_infix_write_iff schedule
  · intro other
    constructor
    · rintro rfl
      rfl
    · intro same
      have first := Document.read_write_json schedule
      rw [same, Document.read_write_json other] at first
      cases first
      rfl

end Stepping
