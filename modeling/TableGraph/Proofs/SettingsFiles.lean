/-
What a file of settings says, over the entries of its mapping.

A file is one document, and its root a mapping from names to nodes, or nothing. An alias is there for the node with its
anchor. Aliases may be followed only so many times for the size of the document, and so every reading is described by what
it gives and how many aliases it takes (`Yaml.Reads`); the number left does not matter else.

Results:
- `Yaml.reads_text`, `Yaml.reads_natural`, `Yaml.reads_bool`, `Yaml.reads_optional_text`: what scalars say.
- `Yaml.reads_record`: the entries of a mapping with their names, of which those that are expected occur once.
- `Settings.ofText_eq_ok_iff`: the settings of a text are what its entries say, and defaults.
-/
import Mathlib.Tactic
import TableGraph.Settings.Layers

namespace TableGraph

namespace Yaml

variable {α β : Type} {document : Document}

/-! ## What nodes say -/

section Nodes

variable (document : Document)

/-- a node is there for another one: an alias for its target, which takes one alias, and all others for themselves -/
inductive Stands : Node → Node → (aliases : Nat) → Prop
  | target {number : Nat} {node : Node} (h : document.target? number = some node) : Stands (.alias number) node 1
  | itself {node : Node} (h : ∀ number, node ≠ .alias number) : Stands node node 0

/-- a scalar of some text -/
inductive IsText : Node → String → (aliases : Nat) → Prop
  | scalar {node : Node} {style : ScalarStyle} {tag : Option String} {text : String} {n : Nat}
      (h : Stands document node (.scalar style tag text) n) : IsText node text n

/-- a scalar that is plain, or a literal block with a tag of its type -/
inductive IsTyped (typeTag : String) : Node → String → (aliases : Nat) → Prop
  | plain {node : Node} {tag : Option String} {text : String} {n : Nat}
      (h : Stands document node (.scalar .plain tag text) n) : IsTyped typeTag node text n
  | literal {node : Node} {text : String} {n : Nat}
      (h : Stands document node (.scalar .literal (some typeTag) text) n) : IsTyped typeTag node text n

/-- a whole number up to a limit, written without a minus -/
inductive SaysNumber (limit : Nat) : Node → Option Nat → (aliases : Nat) → Prop
  | number {node : Node} {text : String} {value n : Nat} (h : IsTyped document intTag node text n)
      (hvalue : integer? text.toList = some value) (hminus : text.toList.head? ≠ some '-') (hlimit : value ≤ limit) :
      SaysNumber limit node (some value) n

/-- a truth value -/
inductive SaysTruth : Node → Option Bool → (aliases : Nat) → Prop
  | truth {node : Node} {text : String} {b : Bool} {n : Nat} (h : IsTyped document boolTag node text n)
      (hvalue : boolOfWord? text = some b) : SaysTruth node (some b) n

/-- plain scalars that are there for nothing: the empty one and some words; with the tag for nothing only the words -/
inductive IsNothing : (tag : Option String) → (text : String) → Prop
  | empty : IsNothing none ""
  | word {tag : Option String} {text : String} (htag : tag = none ∨ tag = some nullTag) (h : text ∈ nullWords) :
      IsNothing tag text

/-- a text, or nothing -/
inductive SaysText : Node → Option String → (aliases : Nat) → Prop
  | nothing {node : Node} {tag : Option String} {text : String} {n : Nat}
      (h : Stands document node (.scalar .plain tag text) n) (hnothing : IsNothing tag text) : SaysText node none n
  | text {node target : Node} {text : String} {n m : Nat} (h : Stands document node target n)
      (hsome : ∀ tag text, target = .scalar .plain tag text → tag ≠ some nullTag ∧ ¬IsNothing tag text)
      (htext : IsText document target text m) : SaysText node (some text) (n + m)

/-- the entries of a mapping with the texts of their keys -/
inductive HasNames : List (Node × Node) → List (String × Node) → (aliases : Nat) → Prop
  | nil : HasNames [] [] 0
  | cons {key value : Node} {name : String} {entries : List (Node × Node)} {named : List (String × Node)} {n m : Nat}
      (hkey : IsText document key name n) (hrest : HasNames entries named m) :
      HasNames ((key, value) :: entries) ((name, value) :: named) (n + m)

/-- a mapping with its names, or an empty scalar, which has no entries -/
inductive IsRecord : Node → List (String × Node) → (aliases : Nat) → Prop
  | mapping {node : Node} {tag : Option String} {entries : List (Node × Node)} {named : List (String × Node)} {n m : Nat}
      (h : Stands document node (.mapping tag entries) n) (hnames : HasNames document entries named m) :
      IsRecord node named (n + m)
  | empty {node : Node} {tag : Option String} {n : Nat} (h : Stands document node (.scalar .plain tag "") n) :
      IsRecord node [] n

end Nodes

/-- what entries say of a name: nothing if it is not there -/
inductive SaysOf (meaning : Node → Option α → Nat → Prop) (entries : List (String × Node)) (name : String) :
    Option α → (aliases : Nat) → Prop
  | missing (h : ∀ node, (name, node) ∉ entries) : SaysOf meaning entries name none 0
  | entry {node : Node} {value : Option α} {n : Nat} (h : (name, node) ∈ entries) (hmeaning : meaning node value n) :
      SaysOf meaning entries name value n

/-! ## Readings -/

/-- a reading gives exactly what a relation says, for the number of aliases that the relation says -/
def Reads (document : Document) (reading : Reading α) (meaning : α → (aliases : Nat) → Prop) : Prop :=
  ∀ left a left', (reading.run document).run left = some (a, left') ↔ ∃ n, meaning a n ∧ left = left' + n

theorem reads_pure (a : α) : Reads document (pure a) fun b n => b = a ∧ n = 0 := by
  intro left b left'
  simp [eq_comm, and_comm]

theorem reads_failure : Reads document (failure : Reading α) fun _ _ => False := by
  intro left b left'
  simp only [false_and, exists_false, iff_false]
  exact nofun

theorem Reads.congr {reading : Reading α} {meaning meaning' : α → Nat → Prop} (h : Reads document reading meaning)
    (hmeaning : ∀ a n, meaning a n ↔ meaning' a n) : Reads document reading meaning' := by
  intro left a left'
  simp only [h left a left', hmeaning]

/-- **One reading after the other** takes the aliases of both -/
theorem Reads.bind {reading : Reading α} {next : α → Reading β} {meaning : α → Nat → Prop} (h : Reads document reading meaning)
    (after : α → β → Nat → Prop) (hnext : ∀ a, Reads document (next a) (after a)) :
    Reads document (reading >>= next) fun b n => ∃ a m k, meaning a m ∧ after a b k ∧ n = m + k := by
  intro left b left'
  rw [ReaderT.run_bind, StateT.run_bind]
  simp only [Option.bind_eq_bind, Option.bind_eq_some_iff, Prod.exists]
  constructor
  · rintro ⟨a, middle, hfirst, hsecond⟩
    obtain ⟨m, hm, rfl⟩ := (h left a middle).mp hfirst
    obtain ⟨k, hk, rfl⟩ := (hnext a middle b left').mp hsecond
    exact ⟨m + k, ⟨a, m, k, hm, hk, rfl⟩, by omega⟩
  · rintro ⟨_, ⟨a, m, k, hm, hk, rfl⟩, rfl⟩
    exact ⟨a, left' + k, (h _ _ _).mpr ⟨m, hm, by omega⟩, (hnext a _ _ _).mpr ⟨k, hk, rfl⟩⟩

/-- a reading whose result is changed takes the same aliases -/
theorem Reads.map {reading : Reading α} {meaning : α → Nat → Prop} (h : Reads document reading meaning) (f : α → β) :
    Reads document (do return f (← reading)) fun b n => ∃ a, b = f a ∧ meaning a n := by
  refine (h.bind _ fun a => reads_pure (f a)).congr fun b n => ?_
  constructor
  · rintro ⟨a, m, k, ha, ⟨rfl, rfl⟩, rfl⟩
    exact ⟨a, rfl, ha⟩
  · rintro ⟨a, rfl, ha⟩
    exact ⟨a, n, 0, ha, ⟨rfl, rfl⟩, rfl⟩

/-- an alias takes one of those that are left -/
theorem run_resolve_alias (document : Document) (number left : Nat) :
    ((Reading.resolve (.alias number)).run document).run (left + 1) =
      (document.target? number).map fun node => (node, left) := by
  have hget : ((get : Reading Nat).run document).run (left + 1) = some (left + 1, left + 1) := rfl
  have hset : ((set left : Reading PUnit).run document).run (left + 1) = some (⟨⟩, left) := rfl
  have hread : ((read : Reading Document).run document).run left = some (document, left) := rfl
  rw [Reading.resolve, ReaderT.run_bind, StateT.run_bind, hget, Option.bind_eq_bind, Option.bind_some]
  simp only
  rw [ReaderT.run_bind, StateT.run_bind, hset, Option.bind_eq_bind, Option.bind_some]
  simp only
  rw [ReaderT.run_bind, StateT.run_bind, hread, Option.bind_eq_bind, Option.bind_some]
  cases document.target? number with
  | none => rfl
  | some node => rfl

/-- a node is resolved to the one that it is there for -/
theorem reads_resolve (node : Node) : Reads document (Reading.resolve node) (Stands document node) := by
  cases node with
  | «alias» number =>
    intro left target left'
    cases left with
    | zero =>
      refine ⟨nofun, ?_⟩
      rintro ⟨n, hstands, hleft⟩
      cases hstands with
      | target h => omega
      | itself h => exact absurd rfl (h number)
    | succ left =>
      rw [run_resolve_alias, Option.map_eq_some_iff]
      constructor
      · rintro ⟨node, htarget, heq⟩
        obtain ⟨rfl, rfl⟩ := Prod.mk.inj heq
        exact ⟨1, .target htarget, rfl⟩
      · rintro ⟨n, hstands, hleft⟩
        cases hstands with
        | target h => exact ⟨target, h, by rw [Nat.add_right_cancel hleft]⟩
        | itself h => exact absurd rfl (h number)
  | scalar | sequence | mapping =>
    refine (reads_pure _).congr fun target n => ⟨?_, ?_⟩
    · rintro ⟨rfl, rfl⟩
      exact .itself nofun
    · intro h
      cases h with
      | itself => exact ⟨rfl, rfl⟩

/-- no value is given where none is said -/
theorem reads_none {reading : Reading α} {meaning : α → Nat → Prop} (hreading : reading = failure)
    (hmeaning : ∀ a n, ¬meaning a n) : Reads document reading meaning := by
  rw [hreading]
  exact reads_failure.congr fun a n => iff_of_false id (hmeaning a n)

/-- a reading that takes scalars only -/
theorem reads_scalar {next : Node → Reading α} (meaning : ScalarStyle → Option String → String → α → Prop)
    (hscalar : ∀ style tag text, Reads document (next (.scalar style tag text)) fun a n => meaning style tag text a ∧ n = 0)
    (hother : ∀ target, (∀ style tag text, target ≠ .scalar style tag text) → next target = failure) (node : Node) :
    Reads document (Reading.resolve node >>= next)
      fun a n => ∃ style tag text, Stands document node (.scalar style tag text) n ∧ meaning style tag text a := by
  refine ((reads_resolve node).bind
    (fun target a n => (∃ style tag text, target = .scalar style tag text ∧ meaning style tag text a) ∧ n = 0)
    fun target => ?_).congr fun a n => ?_
  · by_cases hform : ∃ style tag text, target = .scalar style tag text
    · obtain ⟨style, tag, text, rfl⟩ := hform
      refine (hscalar style tag text).congr fun a n => and_congr_left fun _ => ⟨?_, ?_⟩
      · exact fun h => ⟨style, tag, text, rfl, h⟩
      · rintro ⟨style, tag, text, heq, h⟩
        obtain ⟨rfl, rfl, rfl⟩ := Node.scalar.inj heq
        exact h
    · apply reads_none (hother target fun style tag text heq => hform ⟨style, tag, text, heq⟩)
      rintro a n ⟨⟨style, tag, text, heq, -⟩, -⟩
      exact hform ⟨style, tag, text, heq⟩
  · constructor
    · rintro ⟨target, m, k, hstands, ⟨⟨style, tag, text, rfl, h⟩, rfl⟩, rfl⟩
      exact ⟨style, tag, text, hstands, h⟩
    · rintro ⟨style, tag, text, hstands, h⟩
      exact ⟨_, n, 0, hstands, ⟨⟨style, tag, text, rfl, h⟩, rfl⟩, rfl⟩

/-- the text of a scalar -/
theorem reads_text (depth : Nat) (node : Node) :
    Reads document (Decoder.text depth node) (IsText document node) := by
  refine (reads_scalar (fun _ _ text found => found = text) (fun style tag text => reads_pure text) ?_ node).congr ?_
  · intro target hother
    cases target with
    | scalar => exact absurd rfl (hother _ _ _)
    | _ => rfl
  · intro found n
    constructor
    · rintro ⟨style, tag, text, hstands, rfl⟩
      exact .scalar hstands
    · rintro ⟨hstands⟩
      exact ⟨_, _, _, hstands, rfl⟩

/-- a scalar may be more than text if it is typed -/
theorem isTyped_eq_true_iff {typeTag : String} {style : ScalarStyle} {tag : Option String} :
    Decoder.isTyped typeTag style tag = true ↔ style = .plain ∨ style = .literal ∧ tag = some typeTag := by
  simp [Decoder.isTyped]

theorem isTyped_iff {typeTag text : String} {node : Node} {n : Nat} : IsTyped document typeTag node text n ↔
    ∃ style tag, Stands document node (.scalar style tag text) n ∧ Decoder.isTyped typeTag style tag = true := by
  constructor
  · intro h
    cases h with
    | plain h => exact ⟨_, _, h, isTyped_eq_true_iff.mpr (.inl rfl)⟩
    | literal h => exact ⟨_, _, h, isTyped_eq_true_iff.mpr (.inr ⟨rfl, rfl⟩)⟩
  · rintro ⟨style, tag, hstands, htyped⟩
    rcases isTyped_eq_true_iff.mp htyped with rfl | ⟨rfl, rfl⟩
    · exact .plain hstands
    · exact .literal hstands

/-- a reading that takes scalars of a type only -/
theorem reads_typed {next : Node → Reading α} (typeTag : String) (meaning : String → α → Prop)
    (htyped : ∀ style tag text, Decoder.isTyped typeTag style tag = true →
      Reads document (next (.scalar style tag text)) fun a n => meaning text a ∧ n = 0)
    (hother : ∀ target, (∀ style tag text, target = .scalar style tag text → Decoder.isTyped typeTag style tag = false) →
      next target = failure) (node : Node) :
    Reads document (Reading.resolve node >>= next) fun a n => ∃ text, IsTyped document typeTag node text n ∧ meaning text a := by
  refine (reads_scalar (fun style tag text a => Decoder.isTyped typeTag style tag = true ∧ meaning text a)
    (fun style tag text => ?_) (fun target hscalar => ?_) node).congr fun a n => ?_
  · cases hstyle : Decoder.isTyped typeTag style tag with
    | true => exact (htyped style tag text hstyle).congr (by simp)
    | false =>
      refine reads_none (hother _ fun style tag text heq => ?_) (by simp)
      obtain ⟨rfl, rfl, -⟩ := Node.scalar.inj heq
      exact hstyle
  · exact hother target fun style tag text heq => absurd heq (hscalar style tag text)
  · constructor
    · rintro ⟨style, tag, text, hstands, hstyle, h⟩
      exact ⟨text, isTyped_iff.mpr ⟨style, tag, hstands, hstyle⟩, h⟩
    · rintro ⟨text, h, hmeaning⟩
      obtain ⟨style, tag, hstands, hstyle⟩ := isTyped_iff.mp h
      exact ⟨style, tag, text, hstands, hstyle, hmeaning⟩

/-- a truth value -/
theorem reads_bool (depth : Nat) (node : Node) : Reads document (Decoder.bool depth node)
    fun b n => SaysTruth document node (some b) n := by
  refine (reads_typed boolTag (fun text b => boolOfWord? text = some b) (fun style tag text htyped => ?_) ?_ node).congr
    fun b n => ⟨?_, ?_⟩
  · simp only [htyped, if_true]
    cases boolOfWord? text with
    | none => exact reads_none rfl (by simp)
    | some b => exact (reads_pure b).congr (by simp [eq_comm])
  · intro target hother
    cases target with
    | scalar style tag text =>
      simp only [hother style tag text rfl]
      rfl
    | _ => rfl
  · rintro ⟨text, h, hvalue⟩
    exact .truth h hvalue
  · intro h
    cases h with
    | truth h hvalue => exact ⟨_, h, hvalue⟩

/-- a number within its limit -/
theorem reads_natural (limit depth : Nat) (node : Node) : Reads document (Decoder.natural limit depth node)
    fun value n => SaysNumber document limit node (some value) n := by
  refine (reads_typed intTag (fun text (value : Nat) => integer? text.toList = some (value : Int) ∧
    text.toList.head? ≠ some '-' ∧ value ≤ limit) (fun style tag text htyped => ?_) ?_ node).congr fun value n => ⟨?_, ?_⟩
  · simp only [htyped, if_true]
    cases integer? text.toList with
    | none => exact reads_none rfl (by simp)
    | some found =>
      simp only [Bool.and_eq_true, decide_eq_true_eq, bne_iff_ne, Option.some.injEq]
      split
      · next hfits =>
        obtain ⟨⟨hpositive, hlimit⟩, hminus⟩ := hfits
        refine (reads_pure found.toNat).congr fun value n => and_congr_left fun _ => ⟨?_, ?_⟩
        · exact fun heq => ⟨by omega, hminus, by omega⟩
        · exact fun h => by omega
      · next hfits =>
        refine reads_none rfl fun value n h => hfits ?_
        obtain ⟨⟨hfound, hminus, hlimit⟩, -⟩ := h
        exact ⟨⟨by omega, by omega⟩, hminus⟩
  · intro target hother
    cases target with
    | scalar style tag text =>
      simp only [hother style tag text rfl]
      rfl
    | _ => rfl
  · rintro ⟨text, h, hvalue, hminus, hlimit⟩
    exact .number h hvalue hminus hlimit
  · intro h
    cases h with
    | number h hvalue hminus hlimit => exact ⟨_, h, hvalue, hminus, hlimit⟩

theorem isNothing_none_iff {text : String} : IsNothing none text ↔ text = "" ∨ text ∈ nullWords := by
  constructor
  · intro h
    cases h with
    | empty => exact .inl rfl
    | word htag h => exact .inr h
  · rintro (rfl | h)
    · exact .empty
    · exact .word (.inl rfl) h

theorem isNothing_some_iff {tag text : String} : IsNothing (some tag) text ↔ tag = nullTag ∧ text ∈ nullWords := by
  constructor
  · intro h
    cases h with
    | word htag h => exact ⟨Option.some.inj (htag.resolve_left nofun), h⟩
  · rintro ⟨rfl, h⟩
    exact .word (.inr rfl) h

/-- whether a scalar is there for nothing; the tag for nothing allows nothing else -/
theorem reads_isNothing (style : ScalarStyle) (tag : Option String) (text : String) :
    Reads document (Decoder.isNothing style tag text) fun b n =>
      (b = true ∧ style = .plain ∧ IsNothing tag text ∨
        b = false ∧ (style = .plain → tag ≠ some nullTag ∧ ¬IsNothing tag text)) ∧ n = 0 := by
  unfold Decoder.isNothing
  split
  · next hstyle =>
    have hstyle : style ≠ .plain := by simpa using hstyle
    exact (reads_pure false).congr (by simp [hstyle])
  · next hstyle =>
    obtain rfl : style = .plain := by simpa using hstyle
    cases tag with
    | none =>
      by_cases hnothing : IsNothing none text
      · have htrue : (text.isEmpty || nullWords.contains text) = true := by
          simpa using isNothing_none_iff.mp hnothing
        simp only [htrue]
        exact (reads_pure true).congr (by simp [hnothing])
      · have hfalse : (text.isEmpty || nullWords.contains text) = false := by
          simpa [isNothing_none_iff] using hnothing
        simp only [hfalse]
        exact (reads_pure false).congr (by simp [hnothing])
    | some tag =>
      simp only
      split
      · next htag =>
        have htag : tag ≠ nullTag := by simpa using htag
        exact (reads_pure false).congr (by simp [htag, isNothing_some_iff])
      · next htag =>
        obtain rfl : tag = nullTag := by simpa using htag
        split
        · next hword =>
          have hword : text ∈ nullWords := by simpa using hword
          exact (reads_pure true).congr (by simp [hword, isNothing_some_iff])
        · next hword =>
          have hword : text ∉ nullWords := by simpa using hword
          exact reads_none rfl (by simp [hword, isNothing_some_iff])

/-- a scalar that is there for nothing has no value, and any other one is read -/
theorem reads_unless_nothing (style : ScalarStyle) (tag : Option String) (text : String) {reading : Reading α}
    {meaning : α → Nat → Prop} (h : Reads document reading meaning) :
    Reads document (do if ← Decoder.isNothing style tag text then return none else return some (← reading)) fun found n =>
      (style = .plain ∧ IsNothing tag text ∧ found = none ∧ n = 0) ∨
        (style = .plain → tag ≠ some nullTag ∧ ¬IsNothing tag text) ∧ ∃ a, found = some a ∧ meaning a n := by
  refine ((reads_isNothing style tag text).bind (fun nothing found n => if nothing then found = none ∧ n = 0 else
    ∃ a, found = some a ∧ meaning a n) fun nothing => ?_).congr fun found n => ?_
  · cases nothing with
    | true => exact reads_pure none
    | false => exact h.map some
  · constructor
    · rintro ⟨_, _, k, ⟨⟨rfl, hstyle, hnothing⟩ | ⟨rfl, hsome⟩, rfl⟩, hfound, rfl⟩
      · obtain ⟨hnone, hzero⟩ := hfound
        exact .inl ⟨hstyle, hnothing, hnone, by rw [hzero]⟩
      · rw [Nat.zero_add]
        exact .inr ⟨hsome, hfound⟩
    · rintro (⟨hstyle, hnothing, hfound⟩ | ⟨hsome, hfound⟩)
      · exact ⟨true, 0, n, ⟨.inl ⟨rfl, hstyle, hnothing⟩, rfl⟩, hfound, (Nat.zero_add n).symm⟩
      · exact ⟨false, 0, n, ⟨.inr ⟨rfl, hsome⟩, rfl⟩, hfound, (Nat.zero_add n).symm⟩

/-- a text that may be missing -/
theorem reads_optional_text (depth : Nat) (node : Node) :
    Reads document (Decoder.optional Decoder.text depth node) (SaysText document node) := by
  refine ((reads_resolve node).bind
    (fun target found n => (∃ tag text, target = .scalar .plain tag text ∧ IsNothing tag text ∧ found = none ∧ n = 0) ∨
      (∀ tag text, target = .scalar .plain tag text → tag ≠ some nullTag ∧ ¬IsNothing tag text) ∧
        ∃ text, found = some text ∧ IsText document target text n)
    fun target => ?_).congr fun found n => ?_
  · have htext : Reads document (Decoder.text depth target) (IsText document target) := reads_text depth target
    cases target with
    | scalar style tag text =>
      refine (reads_unless_nothing style tag text htext).congr fun found n => or_congr ?_ (and_congr_left fun _ => ?_)
      · constructor
        · exact fun ⟨hstyle, hnothing, hfound⟩ => ⟨tag, text, by rw [hstyle], hnothing, hfound⟩
        · rintro ⟨tag', text', heq, hnothing, hfound⟩
          obtain ⟨hstyle, rfl, rfl⟩ := Node.scalar.inj heq
          exact ⟨hstyle, hnothing, hfound⟩
      · constructor
        · intro hsome tag' text' heq
          obtain ⟨hstyle, rfl, rfl⟩ := Node.scalar.inj heq
          exact hsome hstyle
        · exact fun hsome hstyle => hsome tag text (by rw [hstyle])
    | _ => exact (htext.map some).congr (by simp)
  · constructor
    · rintro ⟨target, m, k, hstands, ⟨tag, text, rfl, hnothing, rfl, rfl⟩ | ⟨hsome, text, rfl, htext⟩, rfl⟩
      · exact .nothing hstands hnothing
      · exact .text hstands hsome htext
    · intro h
      cases h with
      | nothing hstands hnothing => exact ⟨_, n, 0, hstands, .inl ⟨_, _, rfl, hnothing, rfl, rfl⟩, rfl⟩
      | text hstands hsome htext => exact ⟨_, _, _, hstands, .inr ⟨hsome, _, rfl, htext⟩, rfl⟩

/-! ## Records -/

/-- the names of entries are read one after the other -/
theorem reads_names (depth : Nat) (entries : List (Node × Node)) :
    Reads document (entries.mapM fun (key, value) => do return (← Decoder.text depth key, value))
      (HasNames document entries) := by
  induction entries with
  | nil =>
    refine (reads_pure []).congr fun named n => ⟨?_, ?_⟩
    · rintro ⟨rfl, rfl⟩
      exact .nil
    · intro h
      cases h with
      | nil => exact ⟨rfl, rfl⟩
  | cons entry entries ih =>
    obtain ⟨key, value⟩ := entry
    rw [List.mapM_cons]
    have hname : Reads document (Decoder.text depth key) (IsText document key) := reads_text depth key
    have hentry := hname.map fun name => (name, value)
    refine (hentry.bind _ fun entry => (ih.map (entry :: ·))).congr fun named n => ?_
    constructor
    · rintro ⟨_, m, k, ⟨name, rfl, hname⟩, ⟨rest, rfl, hrest⟩, rfl⟩
      exact .cons hname hrest
    · intro h
      cases h with
      | cons hname hrest => exact ⟨_, _, _, ⟨_, rfl, hname⟩, ⟨_, rfl, hrest⟩, rfl⟩

/-- the entries of the names that are expected -/
def known (expected : List String) (named : List (String × Node)) : List (String × Node) :=
  named.filter fun entry => expected.contains entry.1

/-- no expected name occurs twice -/
def Distinct (expected : List String) (named : List (String × Node)) : Prop :=
  ∀ name ∈ expected, (named.map Prod.fst).count name ≤ 1

theorem nodup_known_iff {expected : List String} {named : List (String × Node)} :
    ((known expected named).map Prod.fst).Nodup ↔ Distinct expected named := by
  have hnames : (known expected named).map Prod.fst = (named.map Prod.fst).filter expected.contains := by
    rw [known, List.filter_map]
    rfl
  rw [hnames, List.nodup_iff_count]
  constructor
  · intro h name hname
    rw [← List.count_filter (p := expected.contains) (by simpa using hname)]
    exact h name
  · intro h name
    by_cases hname : name ∈ expected
    · rw [List.count_filter (by simpa using hname)]
      exact h name hname
    · have hnone : name ∉ (named.map Prod.fst).filter expected.contains := by simp [hname]
      rw [List.count_eq_zero.mpr hnone]
      exact Nat.zero_le 1

/-- the entries of a mapping are read with their names, if those that are expected are there once -/
theorem reads_entries {next : Fields → Reading α} {expected : List String} {after : List (String × Node) → α → Nat → Prop}
    {depth : Nat} (hnext : ∀ named, Distinct expected named → Reads document (next ⟨depth, known expected named⟩) (after named))
    (entries : List (Node × Node)) :
    Reads document ((do
        let named ← entries.mapM fun (key, value) => do return (← Decoder.text depth key, value)
        let known := named.filter fun entry => expected.contains entry.1
        if (known.map (·.1)).Nodup then return ⟨depth, known⟩ else failure) >>= next) fun a n =>
      ∃ named m k, HasNames document entries named m ∧ Distinct expected named ∧ after named a k ∧ n = m + k := by
  rw [bind_assoc]
  refine ((reads_names depth entries).bind (fun named a k => Distinct expected named ∧ after named a k)
    fun named => ?_).congr fun a n => ?_
  · rw [← known]
    simp only
    split
    · next hnodup =>
      have hdistinct := nodup_known_iff.mp hnodup
      rw [pure_bind]
      exact (hnext named hdistinct).congr (by simp [hdistinct])
    · next hnodup => exact reads_none rfl fun a n h => hnodup (nodup_known_iff.mpr h.1)
  · simp only [and_assoc]

/-- **A record** is read with the entries whose names are expected, if each is there once -/
theorem reads_record {next : Fields → Reading α} {expected : List String} (after : List (String × Node) → α → Nat → Prop)
    (hnext : ∀ depth named, Distinct expected named → Reads document (next ⟨depth, known expected named⟩) (after named))
    (depth : Nat) (node : Node) :
    Reads document (Fields.decoder expected (depth + 1) node >>= next) fun a n =>
      ∃ named m k, IsRecord document node named m ∧ Distinct expected named ∧ after named a k ∧ n = m + k := by
  have hdistinct : Distinct expected [] := fun name _ => Nat.zero_le 1
  rw [Fields.decoder, bind_assoc]
  refine ((reads_resolve node).bind (fun target a n =>
    (∃ tag entries, target = .mapping tag entries ∧ ∃ named m k, HasNames document entries named m ∧
      Distinct expected named ∧ after named a k ∧ n = m + k) ∨ ∃ tag, target = .scalar .plain tag "" ∧ after [] a n)
    fun target => ?_).congr fun a n => ?_
  · cases target with
    | mapping tag entries => exact (reads_entries (hnext depth) entries).congr (by simp)
    | scalar style tag text =>
      have hempty : (Node.scalar style tag text).isEmptyPlain = true ↔ style = .plain ∧ text = "" := by
        simp [Node.isEmptyPlain]
      simp only
      split
      · next h =>
        obtain ⟨rfl, rfl⟩ := hempty.mp h
        rw [pure_bind]
        exact (hnext (depth + 1) [] hdistinct).congr (by simp)
      · next h =>
        refine reads_none rfl fun a n hsaid => h (hempty.mpr ?_)
        simp only [Node.scalar.injEq, reduceCtorEq, false_and, exists_false, false_or] at hsaid
        obtain ⟨tag', ⟨hstyle, -, htext⟩, -⟩ := hsaid
        exact ⟨hstyle, htext⟩
    | _ => exact reads_none rfl (by simp)
  · constructor
    · rintro ⟨target, m, k, hstands, ⟨tag, entries, rfl, named, m', k', hnames, hnodup, hafter, rfl⟩ | ⟨tag, rfl, hafter⟩, rfl⟩
      · exact ⟨named, m + m', k', .mapping hstands hnames, hnodup, hafter, (Nat.add_assoc m m' k').symm⟩
      · exact ⟨[], m, k, .empty hstands, hdistinct, hafter, rfl⟩
    · rintro ⟨named, m, k, hrecord, hnodup, hafter, rfl⟩
      cases hrecord with
      | mapping hstands hnames =>
        exact ⟨_, _, _, hstands, .inl ⟨_, _, rfl, named, _, k, hnames, hnodup, hafter, rfl⟩, Nat.add_assoc _ _ k⟩
      | empty hstands => exact ⟨_, m, k, hstands, .inr ⟨_, rfl, hafter⟩, rfl⟩

/-- **The value of a name** is what the entries say of it -/
theorem reads_getD (meaning : Node → Option β → Nat → Prop) (f : Option β → α) {value : Decoder α}
    (hvalue : ∀ depth node, Reads document (value depth node) fun a n => ∃ found, meaning node found n ∧ a = f found)
    {expected : List String} {named : List (String × Node)} (hdistinct : Distinct expected named) {name : String}
    (hname : name ∈ expected) (depth : Nat) :
    Reads document (Fields.getD ⟨depth, known expected named⟩ name value (f none)) fun a n =>
      ∃ found, SaysOf meaning named name found n ∧ a = f found := by
  have hnodup := nodup_known_iff.mpr hdistinct
  have hmem (node : Node) : (name, node) ∈ known expected named ↔ (name, node) ∈ named := by
    simp [known, hname]
  unfold Fields.getD
  simp only
  cases hlookup : (known expected named).lookup name with
  | none =>
    have hnone (node : Node) : (name, node) ∉ named := by
      intro h
      have hother := List.lookup_eq_none_iff.mp hlookup (name, node) ((hmem node).mpr h)
      simp at hother
    refine (reads_pure (f none)).congr fun a n => ⟨?_, ?_⟩
    · rintro ⟨rfl, rfl⟩
      exact ⟨none, .missing hnone, rfl⟩
    · rintro ⟨found, hsaid, rfl⟩
      cases hsaid with
      | missing => exact ⟨rfl, rfl⟩
      | entry h => exact absurd h (hnone _)
  | some node =>
    obtain ⟨before, rest, hsplit, -⟩ := List.lookup_eq_some_iff.mp hlookup
    have hentry : (name, node) ∈ known expected named := hsplit ▸ List.mem_append_right before List.mem_cons_self
    have hunique {other : Node} (h : (name, other) ∈ named) : other = node :=
      congrArg Prod.snd (List.inj_on_of_nodup_map hnodup ((hmem other).mpr h) hentry rfl)
    refine (hvalue depth node).congr fun a n => ⟨?_, ?_⟩
    · rintro ⟨found, hmeaning, rfl⟩
      exact ⟨found, .entry ((hmem node).mp hentry) hmeaning, rfl⟩
    · rintro ⟨found, hsaid, rfl⟩
      cases hsaid with
      | missing h => exact absurd ((hmem node).mp hentry) (h node)
      | entry h hmeaning => exact ⟨found, hunique h ▸ hmeaning, rfl⟩

/-- a value that is never nothing, with a default -/
theorem reads_getD_value (meaning : Node → Option α → Nat → Prop) (hsome : ∀ node n, ¬meaning node none n)
    {value : Decoder α} (hvalue : ∀ depth node, Reads document (value depth node) fun a n => meaning node (some a) n)
    {expected : List String} {named : List (String × Node)} (hdistinct : Distinct expected named) {name : String}
    (hname : name ∈ expected) (depth : Nat) (default : α) :
    Reads document (Fields.getD ⟨depth, known expected named⟩ name value default) fun a n =>
      ∃ found, SaysOf meaning named name found n ∧ a = found.getD default := by
  refine reads_getD meaning (·.getD default) (fun depth node => (hvalue depth node).congr fun a n => ?_) hdistinct hname depth
  constructor
  · exact fun h => ⟨some a, h, rfl⟩
  · rintro ⟨found, h, rfl⟩
    cases found with
    | none => exact absurd h (hsome node n)
    | some a => exact h

end Yaml

/-! ## Files -/

/-- the names of the settings in a file -/
def settingNames : List String := ["database_url", "fixture", "schema", "parallelism", "fetch_size", "max_connections",
  "connect_timeout_secs", "output", "pretty"]

/-- what a file says; a setting that it does not mention, or mentions as nothing, is `none` -/
structure FileValues where
  databaseUrl : Option String := none
  fixture : Option String := none
  schema : Option String := none
  parallelism : Option Nat := none
  fetchSize : Option Nat := none
  maxConnections : Option Nat := none
  timeoutSeconds : Option Nat := none
  output : Option String := none
  pretty : Option Bool := none

namespace FileValues

open Yaml

/-- each value is what the entries of a mapping say of its setting; `aliases` are the aliases that this takes -/
structure SaidBy (values : FileValues) (document : Document) (entries : List (String × Node)) (aliases : String → Nat) :
    Prop where
  databaseUrl : SaysOf (SaysText document) entries "database_url" values.databaseUrl (aliases "database_url")
  fixture : SaysOf (SaysText document) entries "fixture" values.fixture (aliases "fixture")
  schema : SaysOf (SaysText document) entries "schema" values.schema (aliases "schema")
  parallelism : SaysOf (SaysNumber document (2 ^ 64 - 1)) entries "parallelism" values.parallelism (aliases "parallelism")
  fetchSize : SaysOf (SaysNumber document (2 ^ 64 - 1)) entries "fetch_size" values.fetchSize (aliases "fetch_size")
  maxConnections : SaysOf (SaysNumber document (2 ^ 32 - 1)) entries "max_connections" values.maxConnections
    (aliases "max_connections")
  timeoutSeconds : SaysOf (SaysNumber document (2 ^ 64 - 1)) entries "connect_timeout_secs" values.timeoutSeconds
    (aliases "connect_timeout_secs")
  output : SaysOf (SaysText document) entries "output" values.output (aliases "output")
  pretty : SaysOf (SaysTruth document) entries "pretty" values.pretty (aliases "pretty")

/-- a text is one document, and its root a record that has no setting twice and says the values; no more than a hundred
aliases are taken for each part of the document -/
inductive WrittenIn (values : FileValues) (text : String) : Prop
  | document {tokens : List Token} {document : Document} {root : Node} {entries : List (String × Node)} {n : Nat}
      {aliases : String → Nat} (htokens : tokens? text.toList = some tokens)
      (hdocument : Document.ofTokens? tokens = some document)
      (hroot : document.root = some root ∨ document.root = none ∧ root = .scalar .plain none "")
      (hrecord : IsRecord document root entries n) (hdistinct : Distinct settingNames entries)
      (hsaid : values.SaidBy document entries aliases)
      (hlimit : n + (settingNames.map aliases).sum ≤ 100 * document.parts) : values.WrittenIn text

/-- the settings of a file by itself: what it says, and defaults -/
def toSettings (values : FileValues) : Settings where
  databaseUrl := values.databaseUrl
  fixture := values.fixture
  schema := values.schema
  parallelism := values.parallelism.getD 4
  fetchSize := values.fetchSize.getD 10000
  maxConnections := values.maxConnections.getD 8
  timeoutSeconds := values.timeoutSeconds.getD 30
  output := values.output
  pretty := values.pretty.getD false

end FileValues

namespace Settings

open Yaml

variable {document : Document}

/-- the aliases of settings, by their names -/
def aliasesOf (counts : List Nat) (name : String) : Nat := ((settingNames.zip counts).lookup name).getD 0

/-- **Settings are read from the entries** of a mapping -/
theorem reads_settings (depth : Nat) (node : Node) :
    Reads document (Settings.decoder (depth + 1) node) fun settings n =>
      ∃ named m k, IsRecord document node named m ∧ Distinct settingNames named ∧
        (∃ (values : FileValues) (aliases : String → Nat), values.SaidBy document named aliases ∧
          settings = values.toSettings ∧ k = (settingNames.map aliases).sum) ∧ n = m + k := by
  unfold Settings.decoder
  refine reads_record _ (fun depth named hdistinct => ?_) depth node
  have htext (name : String) (hname : name ∈ settingNames) :
      Reads document (Fields.getD ⟨depth, known settingNames named⟩ name (Decoder.optional Decoder.text) none)
        (SaysOf (SaysText document) named name) :=
    (reads_getD (SaysText document) id (fun depth node => (reads_optional_text depth node).congr (by simp)) hdistinct hname
      depth).congr (by simp)
  have hnumber (limit : Nat) (name : String) (default : Nat) (hname : name ∈ settingNames) :=
    reads_getD_value (SaysNumber document limit) (fun _ _ => nofun) (reads_natural limit) hdistinct hname depth default
  have htruth (name : String) (default : Bool) (hname : name ∈ settingNames) :=
    reads_getD_value (SaysTruth document) (fun _ _ => nofun) reads_bool hdistinct hname depth default
  refine (htext "database_url" (by decide) |>.bind _ fun _ => htext "fixture" (by decide) |>.bind _ fun _ =>
    htext "schema" (by decide) |>.bind _ fun _ => hnumber _ "parallelism" _ (by decide) |>.bind _ fun _ =>
    hnumber _ "fetch_size" _ (by decide) |>.bind _ fun _ => hnumber _ "max_connections" _ (by decide) |>.bind _ fun _ =>
    hnumber _ "connect_timeout_secs" _ (by decide) |>.bind _ fun _ => htext "output" (by decide) |>.bind _ fun _ =>
    htruth "pretty" _ (by decide) |>.bind _ fun _ => reads_pure _).congr fun settings n => ?_
  constructor
  · rintro ⟨databaseUrl, n1, _, h1, ⟨fixture, n2, _, h2, ⟨schema, n3, _, h3, ⟨_, n4, _, ⟨parallelism, h4, rfl⟩,
      ⟨_, n5, _, ⟨fetchSize, h5, rfl⟩, ⟨_, n6, _, ⟨maxConnections, h6, rfl⟩, ⟨_, n7, _, ⟨timeoutSeconds, h7, rfl⟩,
      ⟨output, n8, _, h8, ⟨_, n9, _, ⟨pretty, h9, rfl⟩, ⟨rfl, rfl⟩, rfl⟩, rfl⟩, rfl⟩, rfl⟩, rfl⟩, rfl⟩, rfl⟩, rfl⟩, rfl⟩
    refine ⟨⟨databaseUrl, fixture, schema, parallelism, fetchSize, maxConnections, timeoutSeconds, output, pretty⟩,
      aliasesOf [n1, n2, n3, n4, n5, n6, n7, n8, _], ⟨h1, h2, h3, h4, h5, h6, h7, h8, h9⟩, rfl, rfl⟩
  · rintro ⟨values, aliases, h, rfl, rfl⟩
    exact ⟨_, _, _, h.databaseUrl, ⟨_, _, _, h.fixture, ⟨_, _, _, h.schema, ⟨_, _, _, ⟨_, h.parallelism, rfl⟩,
      ⟨_, _, _, ⟨_, h.fetchSize, rfl⟩, ⟨_, _, _, ⟨_, h.maxConnections, rfl⟩, ⟨_, _, _, ⟨_, h.timeoutSeconds, rfl⟩,
      ⟨_, _, _, h.output, ⟨_, _, _, ⟨_, h.pretty, rfl⟩, ⟨rfl, rfl⟩, rfl⟩, rfl⟩, rfl⟩, rfl⟩, rfl⟩, rfl⟩, rfl⟩, rfl⟩, rfl⟩

/-- **The settings of a text** are what its entries say, and defaults -/
theorem ofText_eq_ok_iff {text : String} {settings : Settings} :
    ofText text = .ok settings ↔ ∃ values : FileValues, values.WrittenIn text ∧ settings = values.toSettings := by
  have hdecode : ofText text = .ok settings ↔ decode? Settings.decoder text = some settings := by
    unfold ofText
    cases decode? Settings.decoder text with
    | none => simp
    | some found => simp
  have hroot {document : Document} {root : Node} : document.root.getD (.scalar .plain none "") = root ↔
      document.root = some root ∨ document.root = none ∧ root = .scalar .plain none "" := by
    cases document.root with
    | none => simp [eq_comm]
    | some node => simp
  rw [hdecode, decode?]
  simp only [Option.bind_eq_bind, Option.bind_eq_some_iff, Option.pure_def, Option.some.injEq]
  constructor
  · rintro ⟨tokens, htokens, document, hdocument, ⟨_, left⟩, hrun, rfl⟩
    obtain ⟨n, ⟨entries, m, k, hrecord, hdistinct, ⟨values, aliases, hsaid, rfl, rfl⟩, rfl⟩, hleft⟩ :=
      (reads_settings _ _ _ _ _).mp hrun
    refine ⟨values, .document htokens hdocument (hroot.mp rfl) hrecord hdistinct hsaid ?_, rfl⟩
    rw [aliasesPerPart] at hleft
    omega
  · rintro ⟨values, ⟨htokens, hdocument, hplace, hrecord, hdistinct, hsaid, hlimit⟩, rfl⟩
    obtain ⟨left, hleft⟩ := Nat.exists_eq_add_of_le' hlimit
    rw [← hroot] at hplace
    subst hplace
    have hrun := (reads_settings 127 _ _ _ left).mpr
      ⟨_, ⟨_, _, _, hrecord, hdistinct, ⟨values, _, hsaid, rfl, rfl⟩, rfl⟩, hleft⟩
    exact ⟨_, htokens, _, hdocument, _, hrun, rfl⟩

end Settings

end TableGraph
