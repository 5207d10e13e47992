import Inet.Base.SimError
import Inet.Lib.Outcome
import Mathlib.Algebra.Order.Group.Nat
import Mathlib.Algebra.BigOperators.Group.List.Basic
import Mathlib.Data.List.DropRight

/-!
# IPv6 extension headers

`addExtensionHeader` places a header by the order of its type, where a second destination-options
header counts as order 6 while it is being placed and as order 1 afterwards. Adding the headers of
such a list one by one, as `dup` does, gives the same list (`Canonical.dup_eq`).
-/

namespace Inet.Ipv6

open List

/-- The extension types of `getExtensionHeaderOrder`, except for the fragment header. -/
inductive HeaderType where
  | HOP
  | DEST
  | ROUTING
  | AUTH
  | ESP
  | MOB
  deriving DecidableEq

/-- The fields of `IPv6FragmentHeader`. -/
structure IPv6FragmentHeader where
  identification : ℕ
  fragmentOffset : ℕ
  moreFragments : Bool
  deriving DecidableEq

/-- An extension header: one of a plain type, of which only the length matters and which is not
empty, or a fragment header. -/
inductive IPv6ExtensionHeader where
  | plain (extensionType : HeaderType) (byteLength : ℕ) (pos : 0 < byteLength)
  | fragment (fh : IPv6FragmentHeader)
  deriving DecidableEq

namespace IPv6ExtensionHeader

def byteLength : IPv6ExtensionHeader → ℕ
  | plain _ byteLength _ => byteLength
  | fragment _ => 8

/-- `IPv6Datagram::getExtensionHeaderOrder`. -/
def order : IPv6ExtensionHeader → ℕ
  | plain .HOP _ _ => 0
  | plain .DEST _ _ => 1
  | plain .ROUTING _ _ => 2
  | fragment _ => 3
  | plain .AUTH _ _ => 4
  | plain .ESP _ _ => 5
  | plain .MOB _ _ => 7

def isFragmentHeader : IPv6ExtensionHeader → Bool
  | fragment _ => true
  | plain _ _ _ => false

/-- The test of `calculateUnfragmentableHeaderByteLength`. -/
def isRoutingOrHop : IPv6ExtensionHeader → Bool
  | plain .HOP _ _ => true
  | plain .ROUTING _ _ => true
  | _ => false

lemma order_of_isRoutingOrHop {header : IPv6ExtensionHeader}
    (unfragmentable : header.isRoutingOrHop = true) : header.order = 0 ∨ header.order = 2 := by
  revert unfragmentable
  rcases header with ⟨type, length, pos⟩ | ⟨fh⟩
  · cases type <;> simp [isRoutingOrHop, order]
  · simp [isRoutingOrHop]

lemma order_le_two {header : IPv6ExtensionHeader} (le : header.order ≤ 3)
    (plain : header.isFragmentHeader = false) :
    header.isRoutingOrHop = true ∨ header.order = 1 := by
  revert le plain
  rcases header with ⟨type, length, pos⟩ | ⟨fh⟩
  · cases type <;> simp [isRoutingOrHop, order]
  · simp [isFragmentHeader]

lemma byteLength_pos (header : IPv6ExtensionHeader) : 0 < header.byteLength := by
  rcases header with ⟨type, length, pos⟩ | ⟨fh⟩
  · exact pos
  · exact Nat.succ_pos 7

end IPv6ExtensionHeader

/-- The insertion loop of `addExtensionHeader` with the current value of `thisOrder`. -/
def insertHeader (eh : IPv6ExtensionHeader) :
    ℕ → List IPv6ExtensionHeader → Except SimError (List IPv6ExtensionHeader)
  | _, [] => .ok [eh]
  | thisOrder, that :: headers =>
      if thisOrder < that.order then .ok (eh :: that :: headers)
      else if thisOrder = that.order then
        if thisOrder = 1 then (insertHeader eh 6 headers).map (that :: ·)
        else .error (.runtimeError "addExtensionHeader() duplicate extension header")
      else (insertHeader eh thisOrder headers).map (that :: ·)

/-- `IPv6Datagram::addExtensionHeader(eh)`, at position -1. -/
def addExtensionHeader (headers : List IPv6ExtensionHeader) (eh : IPv6ExtensionHeader) :
    Except SimError (List IPv6ExtensionHeader) :=
  insertHeader eh eh.order headers

/-- Adding headers one by one: `encapsulate` does so with those of the control info, `copy` with
those of the datagram copied. -/
def addExtensionHeaders (headers : List IPv6ExtensionHeader) (added : List IPv6ExtensionHeader) :
    Except SimError (List IPv6ExtensionHeader) :=
  added.foldlM addExtensionHeader headers

/-- The value of `thisOrder` once the loop has gone past these headers. -/
def orderPast : ℕ → List IPv6ExtensionHeader → ℕ
  | thisOrder, [] => thisOrder
  | thisOrder, that :: headers => orderPast (if thisOrder = that.order then 6 else thisOrder) headers

/-- The loop goes past these headers: none has a higher order, and only destination options are
met twice. -/
def Passes : ℕ → List IPv6ExtensionHeader → Prop
  | _, [] => True
  | thisOrder, that :: headers =>
      that.order ≤ thisOrder ∧ (thisOrder = that.order → thisOrder = 1) ∧
        Passes (if thisOrder = that.order then 6 else thisOrder) headers

section

variable {eh header : IPv6ExtensionHeader} {headers pre post front : List IPv6ExtensionHeader}
  {thisOrder : ℕ}

lemma orderPast_append : orderPast thisOrder (pre ++ post) =
    orderPast (orderPast thisOrder pre) post := by
  induction pre generalizing thisOrder with
  | nil => rfl
  | cons that pre ih => exact ih

lemma passes_append : Passes thisOrder (pre ++ post) ↔
    Passes thisOrder pre ∧ Passes (orderPast thisOrder pre) post := by
  induction pre generalizing thisOrder with
  | nil => simp [Passes, orderPast]
  | cons that pre ih => simp only [cons_append, Passes, orderPast, ih, and_assoc]

variable {result : List IPv6ExtensionHeader}

lemma insertHeader_spec (ok : insertHeader eh thisOrder headers = .ok result) :
    ∃ pre post, headers = pre ++ post ∧ result = pre ++ eh :: post ∧ Passes thisOrder pre ∧
      ∀ next ∈ post.head?, orderPast thisOrder pre < next.order := by
  induction headers generalizing thisOrder result with
  | nil =>
    cases ok
    exact ⟨[], [], rfl, rfl, trivial, by simp⟩
  | cons that headers ih =>
    simp only [insertHeader] at ok
    split_ifs at ok with before same dest
    · cases ok
      exact ⟨[], that :: headers, rfl, rfl, trivial, by simpa [orderPast] using before⟩
    · cases rest : insertHeader eh 6 headers with
      | error e => simp [rest, Except.map] at ok
      | ok result' =>
        rw [rest] at ok
        cases ok
        obtain ⟨pre, post, split, eq, passes, stop⟩ := ih rest
        refine ⟨that :: pre, post, by rw [split, cons_append], by rw [eq, cons_append], ?_, ?_⟩
        · exact ⟨by omega, fun _ => dest, by rwa [if_pos same]⟩
        · rwa [orderPast, if_pos same]
    · cases rest : insertHeader eh thisOrder headers with
      | error e => simp [rest, Except.map] at ok
      | ok result' =>
        rw [rest] at ok
        cases ok
        obtain ⟨pre, post, split, eq, passes, stop⟩ := ih rest
        refine ⟨that :: pre, post, by rw [split, cons_append], by rw [eq, cons_append], ?_, ?_⟩
        · exact ⟨by omega, fun eq => absurd eq same, by rwa [if_neg same]⟩
        · rwa [orderPast, if_neg same]

lemma insertHeader_of_passes (passes : Passes thisOrder headers) :
    insertHeader eh thisOrder headers = .ok (headers ++ [eh]) := by
  induction headers generalizing thisOrder with
  | nil => rfl
  | cons that headers ih =>
    obtain ⟨le, dest, rest⟩ := passes
    rw [insertHeader, if_neg (not_lt.mpr le)]
    by_cases same : thisOrder = that.order
    · rw [if_pos same] at rest
      rw [if_pos same, if_pos (dest same), ih rest]
      rfl
    · rw [if_neg same] at rest
      rw [if_neg same, ih rest]
      rfl

/-! ## Lists built by addExtensionHeader -/

/-- Every header would be appended to the headers in front of it. -/
inductive Canonical : List IPv6ExtensionHeader → Prop
  | nil : Canonical []
  | snoc {pre : List IPv6ExtensionHeader} {header : IPv6ExtensionHeader} :
    Canonical pre → Passes header.order pre → Canonical (pre ++ [header])

variable (canonical : Canonical headers)
include canonical

lemma Canonical.dup_eq : addExtensionHeaders [] headers = .ok headers := by
  induction canonical with
  | nil => rfl
  | @snoc pre header _ passes ih =>
    rw [addExtensionHeaders, foldlM_append]
    rw [addExtensionHeaders] at ih
    rw [ih]
    have appended : addExtensionHeader pre header = .ok (pre ++ [header]) :=
      insertHeader_of_passes passes
    simp only [bind, Except.bind, foldlM_cons, foldlM_nil, appended]
    rfl

lemma Canonical.passes (split : headers = pre ++ header :: post) : Passes header.order pre := by
  induction canonical generalizing post with
  | nil => simp at split
  | @snoc front last _ passes ih =>
    rcases eq_nil_or_concat post with rfl | ⟨post', final, rfl⟩
    · obtain ⟨rfl, eq⟩ := append_inj' split rfl
      cases eq
      exact passes
    · rw [concat_eq_append, ← cons_append, ← append_assoc] at split
      exact ih (append_inj' split rfl).1

lemma Canonical.of_append (split : headers = pre ++ post) : Canonical pre := by
  induction canonical generalizing post with
  | nil =>
    obtain ⟨rfl, -⟩ := append_eq_nil_iff.mp split.symm
    exact .nil
  | @snoc front last frontCanonical passes ih =>
    rcases eq_nil_or_concat post with rfl | ⟨post', final, rfl⟩
    · rw [append_nil] at split
      rw [← split]
      exact .snoc frontCanonical passes
    · rw [concat_eq_append, ← append_assoc] at split
      exact ih (append_inj' split rfl).1

omit canonical in
/-- Going past headers leaves the order as it is, except that destination options, having met
others, count as order 6. -/
lemma orderPast_eq (passes : Passes thisOrder headers) :
    orderPast thisOrder headers = thisOrder ∨
      (thisOrder = 1 ∧ orderPast thisOrder headers = 6) := by
  induction headers generalizing thisOrder with
  | nil => exact .inl rfl
  | cons that headers ih =>
    obtain ⟨le, dest, rest⟩ := passes
    rw [orderPast]
    by_cases same : thisOrder = that.order
    · rw [if_pos same] at rest ⊢
      rcases ih rest with eq | ⟨six, -⟩
      · exact .inr ⟨dest same, eq⟩
      · omega
    · rw [if_neg same] at rest ⊢
      exact ih rest

omit canonical in
lemma Passes.order_le (passes : Passes thisOrder headers) (mem : header ∈ headers) :
    header.order ≤ orderPast thisOrder headers := by
  induction headers generalizing thisOrder with
  | nil => cases mem
  | cons that headers ih =>
    obtain ⟨le, dest, rest⟩ := passes
    rw [orderPast]
    rcases mem_cons.mp mem with rfl | mem
    · rcases orderPast_eq rest with eq | ⟨one, eq⟩
      · rw [eq]
        split
        · have := dest ‹_›
          omega
        · exact le
      · rw [eq]
        split at one <;> omega
    · exact ih rest mem

omit canonical in
lemma order_range (header : IPv6ExtensionHeader) : header.order ≠ 6 ∧ header.order ≤ 7 := by
  rcases header with ⟨type, length, pos⟩ | ⟨fh⟩
  · cases type <;> simp [IPv6ExtensionHeader.order]
  · simp [IPv6ExtensionHeader.order]

omit canonical in
lemma passes_insert (ehPasses : Passes eh.order front)
    (stop : ∀ next ∈ (post ++ [header]).head?, orderPast eh.order front < next.order)
    (passes : Passes header.order (front ++ post)) : Passes header.order (front ++ eh :: post) := by
  rw [passes_append] at passes ⊢
  obtain ⟨passesFront, passesPost⟩ := passes
  have six := order_range eh
  -- the loop for `header` meets `eh` with an order above that of `eh`
  have lower : eh.order < orderPast header.order front := by
    have here : ∃ next, next ∈ (post ++ [header]).head? ∧
        next.order ≤ orderPast header.order (front ++ post) := by
      cases post with
      | nil =>
        refine ⟨header, rfl, ?_⟩
        rw [append_nil]
        rcases orderPast_eq passesFront with eq | ⟨one, eq⟩
        · exact eq.ge
        · omega
      | cons next post =>
        refine ⟨next, rfl, ?_⟩
        have all := (passes_append.mpr ⟨passesFront, passesPost⟩).order_le
          (mem_append_right _ mem_cons_self)
        exact all
    obtain ⟨next, nextMem, nextLe⟩ := here
    have above := stop next nextMem
    have nextSix := order_range next
    rcases orderPast_eq ehPasses with ehEq | ⟨ehOne, ehEq⟩
    all_goals
      rw [orderPast_append] at nextLe
      rcases orderPast_eq passesFront with eq | ⟨one, eq⟩
      · rw [eq] at nextLe ⊢
        rcases orderPast_eq (eq ▸ passesPost) with eq' | ⟨one', eq'⟩
        · omega
        · -- `header` is a destination header that met the first one behind `front`
          cases post with
          | nil =>
            simp only [orderPast] at eq'
            omega
          | cons first post =>
            have firstLe := passesPost.1
            have : first = next := by simpa using nextMem
            subst this
            omega
      · omega
  refine ⟨passesFront, lower.le, fun same => absurd same lower.ne', ?_⟩
  rw [if_neg lower.ne']
  exact passesPost

lemma Canonical.addExtensionHeader
    (ok : addExtensionHeader headers eh = .ok result) : Canonical result := by
  obtain ⟨front, post, rfl, rfl, ehPasses, stop⟩ := insertHeader_spec ok
  have frontCanonical : Canonical front := canonical.of_append rfl
  clear ok
  -- the headers behind the new one, from left to right
  induction post using List.reverseRecOn with
  | nil => exact .snoc frontCanonical ehPasses
  | append_singleton post header ih =>
    have canonical' : Canonical (front ++ post) :=
      canonical.of_append (append_assoc front post [header]).symm
    have shorter := ih canonical' (by
      intro next mem
      refine stop next ?_
      cases post with
      | nil => cases mem
      | cons first post => exact mem)
    have passes : Passes header.order (front ++ post) :=
      canonical.passes (append_assoc front post [header]).symm
    have appended : front ++ eh :: (post ++ [header]) = (front ++ eh :: post) ++ [header] := by
      simp
    rw [appended]
    exact .snoc shorter (passes_insert ehPasses stop passes)

lemma Canonical.unfragmentable_front (split : headers = pre ++ header :: post)
    (high : 3 < header.order) : ∀ later ∈ post, later.isRoutingOrHop = false := by
  intro later mem
  obtain ⟨between, rest, rfl⟩ := append_of_mem mem
  have split' : headers = (pre ++ header :: between) ++ later :: rest := by
    rw [split, append_assoc, cons_append]
  have passes := canonical.passes split'
  have le := passes.order_le (mem_append_right pre mem_cons_self)
  by_contra unfragmentable
  rw [Bool.not_eq_false] at unfragmentable
  have low := IPv6ExtensionHeader.order_of_isRoutingOrHop unfragmentable
  rcases orderPast_eq passes with eq | ⟨one, -⟩
  · omega
  · omega

/-- Headers added one by one make a canonical list, and no others get in. -/
lemma canonical_of_added {added : List IPv6ExtensionHeader}
    (ok : addExtensionHeaders headers added = .ok result) :
    Canonical result ∧ ∀ header ∈ result, header ∈ headers ∨ header ∈ added := by
  induction added generalizing headers with
  | nil =>
    cases ok
    exact ⟨canonical, fun _ mem => .inl mem⟩
  | cons eh added ih =>
    obtain ⟨next, first, rest⟩ := Except.bind_eq_ok ok
    obtain ⟨resultCanonical, fromNext⟩ := ih (canonical.addExtensionHeader first) rest
    refine ⟨resultCanonical, ?_⟩
    intro header mem
    obtain ⟨pre, post, rfl, rfl, -, -⟩ := insertHeader_spec first
    rcases fromNext header mem with here | here
    · simp only [mem_append, mem_cons] at here ⊢
      tauto
    · exact .inr (mem_cons_of_mem eh here)

end

/-- A copy of a datagram has the headers of the datagram, whatever has been added to it. -/
theorem copy_of_added {added result : List IPv6ExtensionHeader}
    (ok : addExtensionHeaders [] added = .ok result) : addExtensionHeaders [] result = .ok result :=
  (canonical_of_added .nil ok).1.dup_eq

theorem copy_of_added_destinations :
    ∃ result, result.length = 3 ∧ addExtensionHeaders [] result = .ok result :=
  ⟨_, rfl, copy_of_added (show addExtensionHeaders [] [.plain .ROUTING 8 (by decide),
    .plain .DEST 8 (by decide), .plain .DEST 16 (by decide)] = .ok _ from rfl)⟩

end Inet.Ipv6
