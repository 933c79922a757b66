import Stepping.Proofs.Compound.Attaching

/-!
# The log of a compound

Of what a compound writes into a log, five kinds of lines are records: of a
member added, of another member made the active one, of a bind, of a release,
and of a member that refused.  A record is read off the line itself, by its
words; no other line is taken for one.

Read one after another from an empty compound on, the records tell how many
members the compound has, which one is active and whether it is bound.  Each
operation writes just what leads from what the compound was like before to what
it is like afterwards, and no record says anything that was not so when it was
written.
-/

namespace Stepping

/-! ## Reading lines -/

/-- What a line of a log records of a compound. -/
inductive LogRecord where
  | added (index : Nat)
  | switched (previous next : Nat)
  | bound (members : Nat)
  | released (members : Nat)
  /-- The member at an index refused, and so many members were released again. -/
  | refused (index members : Nat)
deriving DecidableEq, Repr

namespace LogRecord

/-- The number that a word of digits stands for. -/
def number? (word : String) : Option Nat :=
  if word ≠ "" ∧ word.toList.all Char.isDigit then
    some (Nat.ofDigitChars 10 word.toList 0)
  else
    none

/-- The words of a line; each blank ends one. -/
def words (line : String) : List String :=
  (line.toList.splitOn ' ').map String.ofList

/-- The index of a member that is recorded to be added. -/
def added? : LogRecord → Option Nat
  | added index => some index
  | _ => none

/-- The flag that a bind or a release leaves, where one is recorded. -/
def flag? : LogRecord → Option Bool
  | bound _ => some true
  | released _ => some false
  | _ => none

/-- What the words of a line record. -/
def ofWords : List String → Option LogRecord
  | ["DEBUG", "added", "member", index, "to", "compound", "integrator"] =>
      (number? index).map added
  | ["DEBUG", "switching", "active", "member", "from", previous, "to", next] => do
      return switched (← number? previous) (← number? next)
  | ["DEBUG", "bound", members, "member(s)"] => (number? members).map bound
  | ["DEBUG", "released", members, "member(s)"] => (number? members).map released
  | ["WARN", "member", index, "failed", "to", "bind,", "releasing", members,
      "bound", "member(s)"] => do
      return refused (← number? index) (← number? members)
  | _ => none

/-- What a line records. -/
def ofLine (line : String) : Option LogRecord :=
  ofWords (words line)

theorem number?_repr (number : Nat) : number? number.repr = some number := by
  have digits : number.repr.toList = Nat.toDigits 10 number :=
    String.toList_ofList
  have filled : number.repr ≠ "" := by
    intro vacant
    rw [vacant] at digits
    exact Nat.toDigits_ne_nil digits.symm
  have all : number.repr.toList.all Char.isDigit := by
    rw [digits, List.all_eq_true]
    exact fun _ => Nat.isDigit_of_mem_toDigits (by decide) (by decide)
  rw [number?, if_pos ⟨filled, all⟩, digits,
    Nat.ofDigitChars_toDigits (by decide) (by decide)]

theorem blank_notMem_toDigits (number : Nat) : ' ' ∉ Nat.toDigits 10 number := by
  intro listed
  have digit : (' ').isDigit = true :=
    Nat.isDigit_of_mem_toDigits (by decide) (by decide) listed
  cases digit

/-- Words without blanks, put together with blanks, are found again. -/
theorem words_of_joined
    {line : String} {texts : List String} (filled : texts ≠ [])
    (solid : ∀ text ∈ texts, ' ' ∉ text.toList)
    (joined : line.toList = [' '].intercalate (texts.map String.toList)) :
    words line = texts := by
  rw [words, joined, List.splitOn_intercalate]
  · simp [Function.comp_def]
  · simpa using solid
  · simpa using filled

end LogRecord

namespace Notice

/-- The words of the notice as a line. -/
def words : Notice → List String
  | .added index =>
      ["DEBUG", "added", "member", index.repr, "to", "compound", "integrator"]
  | .switched previous next =>
      ["DEBUG", "switching", "active", "member", "from", previous.repr, "to",
        next.repr]
  | .stepping index steps =>
      ["TRACE", "stepping", "member", index.repr, "by", steps.toNat.repr,
        "step(s)"]
  | .rebinding => ["DEBUG", "rebinding", "compound", "integrator"]
  | .refused index =>
      ["WARN", "member", index.repr, "failed", "to", "bind,", "releasing",
        index.repr, "bound", "member(s)"]
  | .bound members => ["DEBUG", "bound", members.repr, "member(s)"]
  | .released members => ["DEBUG", "released", members.repr, "member(s)"]
  | .droppedBound =>
      ["WARN", "compound", "integrator", "dropped", "while", "bound,",
        "releasing", "members"]
  | .segment index steps member =>
      ["DEBUG", "segment", index.repr ++ ":", steps.toNat.repr, "step(s)", "on",
        "member", member.toNat.repr]
  | .stopped steps =>
      ["DEBUG", "schedule", "stopped", "by", "observer", "after",
        steps.toNat.repr, "step(s)"]

/-- What the notice records of a compound. -/
def record : Notice → Option LogRecord
  | .added index => some (.added index)
  | .switched previous next => some (.switched previous next)
  | .refused index => some (.refused index index)
  | .bound members => some (.bound members)
  | .released members => some (.released members)
  | _ => none

-- each line is taken apart into the texts and the numbers that it is made of
theorem toList_line (notice : Notice) :
    notice.line.toList = [' '].intercalate (notice.words.map String.toList) := by
  cases notice with
  | added index =>
      show ("DEBUG" ++ " " ++
        ("added member " ++ index.repr ++ " to compound integrator")).toList = _
      simp only [String.toList_append, List.append_assoc]
      rfl
  | switched previous next =>
      show ("DEBUG" ++ " " ++
        ("switching active member from " ++ previous.repr ++ " to " ++
          next.repr)).toList = _
      simp only [String.toList_append, List.append_assoc]
      rw [← List.append_nil next.repr.toList]
      rfl
  | stepping index steps =>
      show ("TRACE" ++ " " ++
        ("stepping member " ++ index.repr ++ " by " ++ steps.toNat.repr ++
          " step(s)")).toList = _
      simp only [String.toList_append, List.append_assoc]
      rfl
  | refused index =>
      show ("WARN" ++ " " ++
        ("member " ++ index.repr ++ " failed to bind, releasing " ++
          index.repr ++ " bound member(s)")).toList = _
      simp only [String.toList_append, List.append_assoc]
      rfl
  | bound members =>
      show ("DEBUG" ++ " " ++
        ("bound " ++ members.repr ++ " member(s)")).toList = _
      simp only [String.toList_append, List.append_assoc]
      rfl
  | released members =>
      show ("DEBUG" ++ " " ++
        ("released " ++ members.repr ++ " member(s)")).toList = _
      simp only [String.toList_append, List.append_assoc]
      rfl
  | segment index steps member =>
      show ("DEBUG" ++ " " ++
        ("segment " ++ index.repr ++ ": " ++ steps.toNat.repr ++
          " step(s) on member " ++ member.toNat.repr)).toList = _
      simp only [words, List.map_cons, List.map_nil, List.intercalate,
        List.intersperse, List.flatten_cons, List.flatten_nil,
        String.toList_append, List.append_assoc, List.append_nil]
      rfl
  | stopped steps =>
      show ("DEBUG" ++ " " ++
        ("schedule stopped by observer after " ++ steps.toNat.repr ++
          " step(s)")).toList = _
      simp only [String.toList_append, List.append_assoc]
      rfl
  | _ => rfl

theorem words_line (notice : Notice) :
    LogRecord.words notice.line = notice.words := by
  apply LogRecord.words_of_joined _ _ notice.toList_line
  · cases notice <;> exact List.cons_ne_nil _ _
  · cases notice <;> simp [words, LogRecord.blank_notMem_toDigits]

/-- The line of a notice records what the notice does. -/
theorem ofLine_line (notice : Notice) :
    LogRecord.ofLine notice.line = notice.record := by
  rw [LogRecord.ofLine, words_line]
  cases notice <;>
    simp [words, LogRecord.ofWords, record, LogRecord.number?_repr]

example :
    LogRecord.ofLine "DEBUG switching active member from 0 to 2" =
      some (.switched 0 2) := by
  decide

end Notice

/-- What the lines of a log record, in order. -/
def recordsOf (lines : List String) : List LogRecord :=
  lines.filterMap LogRecord.ofLine

/-- The lines that a log is given of a trace. -/
def Trace.lines (trace : Trace) : List String :=
  trace.notices.map Notice.line

theorem recordsOf_append (first second : List String) :
    recordsOf (first ++ second) = recordsOf first ++ recordsOf second :=
  List.filterMap_append

theorem recordsOf_lines (trace : Trace) :
    recordsOf trace.lines = trace.notices.filterMap Notice.record := by
  rw [recordsOf, Trace.lines, List.filterMap_map]
  exact congrArg (List.filterMap · trace.notices) (funext Notice.ofLine_line)

/-! ## What records say -/

/-- What the records of a compound tell of it. -/
structure Outline where
  members : Nat
  active : Nat
  bound : Bool
deriving DecidableEq, Repr

namespace Outline

/-- A compound without members that is not bound. -/
def empty : Outline := ⟨0, 0, false⟩

/-- What a record makes of what is known of a compound. -/
def after (outline : Outline) : LogRecord → Outline
  | .added index => { outline with members := index + 1 }
  | .switched _ next => { outline with active := next }
  | .bound _ => { outline with bound := true }
  | .released _ => { outline with bound := false }
  | .refused _ _ => outline

/-- What a record says was so when it was written. -/
def Fits (outline : Outline) : LogRecord → Prop
  | .added index => index = outline.members
  | .switched previous next => previous = outline.active ∧ previous ≠ next
  | .bound members => members = outline.members ∧ outline.bound = false
  | .released members => members = outline.members ∧ outline.bound = true
  | .refused index members => members = index ∧ index < outline.members

/-- Records that fit, one after another, and lead from one state to another. -/
structure Leads (before : Outline) (records : List LogRecord)
    (next : Outline) : Prop where
  fits :
    ∀ front record back, records = front ++ record :: back →
      (front.foldl after before).Fits record
  foldl_eq : records.foldl after before = next

theorem Leads.refl (outline : Outline) : outline.Leads [] outline where
  fits := by simp
  foldl_eq := rfl

theorem Leads.single
    {before : Outline} {record : LogRecord} (fits : before.Fits record) :
    before.Leads [record] (before.after record) where
  fits := by
    intro front other back split
    rcases List.append_eq_singleton_iff.mp split.symm with
      ⟨rfl, single⟩ | ⟨-, vacant⟩
    · cases single
      exact fits
    · cases vacant
  foldl_eq := rfl

theorem Leads.trans
    {first second third : Outline} {earlier later : List LogRecord}
    (left : first.Leads earlier second) (right : second.Leads later third) :
    first.Leads (earlier ++ later) third where
  fits := by
    intro front record back split
    rcases List.append_eq_append_iff.mp split with
      ⟨between, rfl, rest⟩ | ⟨between, rfl, rest⟩
    · rw [List.foldl_append, left.foldl_eq]
      exact right.fits between record back rest
    · cases between with
      | nil =>
          rw [List.append_nil] at left
          rw [left.foldl_eq]
          exact right.fits [] record back rest.symm
      | cons head tail =>
          cases rest
          exact left.fits front record tail rfl
  foldl_eq := by rw [List.foldl_append, left.foldl_eq, right.foldl_eq]

theorem Leads.of_cons
    {before next : Outline} {record : LogRecord} {records : List LogRecord}
    (leads : before.Leads (record :: records) next) :
    before.Fits record ∧ (before.after record).Leads records next where
  left := leads.fits [] record records rfl
  right := {
    fits := fun front other back split =>
      leads.fits (record :: front) other back (congrArg (record :: ·) split)
    foldl_eq := leads.foldl_eq }

/-- The members that are recorded to be added have the next indices, in order. -/
theorem Leads.added_eq
    {before next : Outline} {records : List LogRecord}
    (leads : before.Leads records next) :
    records.filterMap LogRecord.added? =
        List.range' before.members (records.filterMap LogRecord.added?).length ∧
      next.members =
        before.members + (records.filterMap LogRecord.added?).length := by
  induction records generalizing before with
  | nil => exact ⟨rfl, (congrArg members leads.foldl_eq).symm⟩
  | cons record records induction =>
      rcases leads.of_cons with ⟨fits, rest⟩
      have later := induction rest
      cases record with
      | added index =>
          cases (show index = before.members from fits)
          rw [List.filterMap_cons_some (by rfl)]
          refine ⟨?_, ?_⟩
          · rw [List.length_cons, List.range'_succ]
            exact congrArg _ later.1
          · rw [later.2, List.length_cons]
            show before.members + 1 + _ = _
            omega
      | _ => exact later

/-- What is recorded to be bound is not, and what is recorded to be released is. -/
theorem Leads.flags_chain
    {before next : Outline} {records : List LogRecord}
    (leads : before.Leads records next) :
    List.IsChain (· ≠ ·) (before.bound :: records.filterMap LogRecord.flag?) := by
  induction records generalizing before with
  | nil => exact .singleton _
  | cons record records induction =>
      rcases leads.of_cons with ⟨fits, rest⟩
      have later := induction rest
      cases record with
      | bound members =>
          refine .cons_cons ?_ later
          rw [show before.bound = false from fits.2]
          exact Bool.false_ne_true
      | released members =>
          refine .cons_cons ?_ later
          rw [show before.bound = true from fits.2]
          exact nofun
      | _ => exact later

end Outline

/-! ## What operations write -/

theorem Trace.lines_append (first second : Trace) :
    (first ++ second).lines = first.lines ++ second.lines := by
  rw [lines, notices_append, List.map_append]
  rfl

namespace Compound

variable {setting : Setting} {size : Nat}

/-- What the records of a compound should tell of it. -/
def outline (compound : Compound setting size) : Outline :=
  ⟨compound.members.length, compound.active, compound.bound⟩

/-- What was written leads from what a compound was like to what it is like. -/
def Logged (before : Compound setting size) (trace : Trace)
    (next : Compound setting size) : Prop :=
  before.outline.Leads (recordsOf trace.lines) next.outline

theorem Logged.refl (compound : Compound setting size) :
    compound.Logged .none compound :=
  Outline.Leads.refl compound.outline

theorem Logged.trans
    {first second third : Compound setting size} {earlier later : Trace}
    (left : first.Logged earlier second) (right : second.Logged later third) :
    first.Logged (earlier ++ later) third := by
  rw [Logged, Trace.lines_append, recordsOf_append]
  exact Outline.Leads.trans left right

/-- Where no record is written, a compound is like it was. -/
theorem logged_of_unrecorded
    {before next : Compound setting size} {trace : Trace}
    (unrecorded : ∀ notice ∈ trace.notices, notice.record = none)
    (same : next.outline = before.outline) : before.Logged trace next := by
  have nothing : recordsOf trace.lines = [] := by
    rw [recordsOf_lines]
    exact List.filterMap_eq_nil_iff.mpr unrecorded
  rw [Logged, nothing, same]
  exact .refl before.outline

/-- A notice that records what is so leads to what it makes of it. -/
theorem logged_of_record
    {before next : Compound setting size} {journal : List Entry}
    {notice : Notice} {record : LogRecord}
    (recorded : notice.record = some record)
    (fits : before.outline.Fits record)
    (same : next.outline = before.outline.after record) :
    before.Logged ⟨journal, [notice]⟩ next := by
  have single : recordsOf (Trace.lines ⟨journal, [notice]⟩) = [record] := by
    rw [recordsOf_lines]
    simp [recorded]
  rw [Logged, single, same]
  exact .single fits

theorem outline_put
    (index : Nat) (member : Member setting size)
    (compound : Compound setting size) :
    (compound.put index member).outline = compound.outline := by
  simp [outline, put]

theorem logged_put
    (index : Nat) (member : Member setting size) (journal : List Entry)
    (compound : Compound setting size) :
    compound.Logged ⟨journal, []⟩ (compound.put index member) :=
  logged_of_unrecorded (by simp) (outline_put index member compound)

theorem logged_select (index : Nat) (compound : Compound setting size) :
    compound.Logged (compound.select index).2.2 (compound.select index).2.1 := by
  rw [select]
  split_ifs with inside same
  · subst same
    exact .refl compound
  · exact logged_of_record rfl ⟨rfl, Ne.symm same⟩ rfl
  · exact .refl compound

theorem logged_step
    (steps : Count) (contexts : Contexts setting size)
    (compound : Compound setting size) :
    compound.Logged (compound.step steps contexts).trace
      (compound.step steps contexts).compound := by
  apply logged_of_unrecorded
  · intro notice told
    rcases compound.notices_step steps contexts with nothing | tried
    · rw [nothing] at told
      cases told
    · rw [tried, List.mem_singleton] at told
      rw [told]
      rfl
  · cases answer : (compound.step steps contexts).answer with
    | error cause => rw [(step_of_error answer).1]
    | ok nothing =>
        rcases step_of_ok answer with
          ⟨-, member, moved, after, -, -, equality⟩
        rw [equality]
        exact outline_put _ _ compound

theorem logged_release (compound : Compound setting size) :
    compound.Logged compound.release.2 compound.release.1 := by
  rw [release]
  split_ifs with bound
  · refine logged_of_record rfl ⟨rfl, bound⟩ ?_
    simp [outline, Outline.after]
  · exact .refl compound

/-- A warning that is given of a bound compound only is no record. -/
theorem logged_of_warning
    {notice : Notice} (unrecorded : notice.record = none)
    (compound : Compound setting size) :
    compound.Logged (if compound.bound then .ofNotice notice else .none)
      compound := by
  split_ifs
  · exact logged_of_unrecorded (by simp [Trace.ofNotice, unrecorded]) rfl
  · exact .refl compound

/-- What is told before a bind comes to the first member leads to the release. -/
theorem logged_before_bind (compound : Compound setting size) :
    compound.Logged
      ((if compound.bound then .ofNotice .rebinding else .none) ++
        compound.release.2)
      compound.release.1 :=
  (compound.logged_of_warning rfl).trans compound.logged_release

theorem length_release (compound : Compound setting size) :
    compound.release.1.members.length = compound.members.length := by
  rw [members_release]
  split_ifs
  · exact List.length_map Member.detach
  · rfl

theorem logged_bind
    (context : Fin size) (contexts : Contexts setting size)
    (compound : Compound setting size) :
    compound.Logged (compound.bind context contexts).2.2
      (compound.bind context contexts).2.1 := by
  have before := compound.logged_before_bind
  have length := compound.length_release
  have free := compound.bound_release
  cases first : compound.firstRefusal context contexts with
  | none =>
      rw [bind_of_accepting (accepting_of_firstRefusal first)]
      refine before.trans (logged_of_record rfl ⟨length.symm, free⟩ ?_)
      simp [outline, Outline.after, length, active_release]
  | some place =>
      rcases refusal_of_firstRefusal first with
        ⟨member, cause, found, refuses, accepting⟩
      have inside := (List.getElem?_eq_some_iff.mp found).1
      rw [bind_of_first_refusal found refuses accepting]
      refine before.trans (logged_of_record rfl ⟨rfl, ?_⟩ ?_)
      · rw [outline, length]
        exact inside
      · simp [outline, Outline.after, length]
        omega

/-- Before a bind comes to the first member, no refusal is recorded. -/
theorem refused_notMem_before_bind
    (compound : Compound setting size) (index members : Nat) :
    .refused index members ∉
      recordsOf
        (Trace.lines
          ((if compound.bound then .ofNotice .rebinding else .none) ++
            compound.release.2)) := by
  rw [recordsOf_lines, release_trace]
  split_ifs <;>
    simp [Trace.ofNotice, Trace.none, Notice.record]

/-- A bind records a refusal just if it fails, and then that of the member that it fails by. -/
theorem refused_mem_bind_iff
    (context : Fin size) (contexts : Contexts setting size)
    (compound : Compound setting size) :
    let bind := compound.bind context contexts
    let records := recordsOf bind.2.2.lines
    (bind.1 = .ok () ∧ ∀ index members, .refused index members ∉ records) ∨
      ∃ place cause, bind.1 = .error (.member place cause) ∧
        ∀ index members,
          .refused index members ∈ records ↔
            index = place ∧ members = place := by
  intro bind records
  have before := compound.refused_notMem_before_bind
  cases first : compound.firstRefusal context contexts with
  | none =>
      have bound :=
        bind_of_accepting (accepting_of_firstRefusal first)
      left
      refine ⟨congrArg Prod.fst bound, ?_⟩
      intro index members
      show _ ∉ recordsOf (compound.bind context contexts).2.2.lines
      rw [bound, Trace.lines_append, recordsOf_append, List.mem_append, not_or]
      refine ⟨before index members, ?_⟩
      simp [recordsOf_lines, Notice.record]
  | some place =>
      rcases refusal_of_firstRefusal first with
        ⟨member, cause, found, refuses, accepting⟩
      have refused := bind_of_first_refusal found refuses accepting
      right
      refine ⟨place, cause, congrArg Prod.fst refused, ?_⟩
      intro index members
      show _ ∈ recordsOf (compound.bind context contexts).2.2.lines ↔ _
      rw [refused, Trace.lines_append, recordsOf_append, List.mem_append,
        or_iff_right (before index members)]
      simp [recordsOf_lines, Notice.record]

/-- The end of a compound is told as its release. -/
theorem logged_drop (compound : Compound setting size) :
    compound.Logged compound.drop compound.release.1 := by
  have told :
      compound.Logged
        (if compound.bound then .ofNotice .droppedBound else .none)
        compound :=
    compound.logged_of_warning rfl
  have ended :
      compound.release.1.Logged
        ⟨notesOf .drop compound.release.1.members, []⟩ compound.release.1 :=
    logged_of_unrecorded (by simp) rfl
  exact (told.trans compound.logged_release).trans ended

end Compound

end Stepping
