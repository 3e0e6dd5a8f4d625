import Mathlib.Data.List.Forall2
import Telemetry.Attributes

/-!
# Attributes are lawful keys

The streams of an instrument are kept in a table that hashes their attributes.  Such a table finds a
stream again only if its keys are compared by an equivalence relation and keys that are equal are hashed
alike.  The equality of doubles is no such relation, since a NaN is not equal to itself.

What the comparison of two sets of attributes means is said without it: they have the same names, and
under each name values of one shape with the same leaves (`Value.Alike`), where two doubles are the same
if they have the same bits.

A hasher is told the pieces of a key one after the other, and what it makes of them is its own affair.
The pieces of a value tell where the value ends (`Delimited`), since those of a row are led by its
length.  So the pieces of one key never begin those of another one, and a hasher that keeps all pieces
apart keeps all keys apart.
-/

namespace Telemetry

namespace Value

/-! ## The same values -/

/-- Values of one shape with the same leaves, doubles compared by a relation. -/
inductive Alike (same : Binary64 → Binary64 → Prop) : Value → Value → Prop where
  | bool (b : Bool) : Alike same (.bool b) (.bool b)
  | i64 (n : Int64) : Alike same (.i64 n) (.i64 n)
  | u64 (n : UInt64) : Alike same (.u64 n) (.u64 n)
  | f64 {x y : Binary64} (h : same x y) : Alike same (.f64 x) (.f64 y)
  | str (s : String) : Alike same (.str s) (.str s)
  | array {vs ws : List Value} (h : List.Forall₂ (Alike same) vs ws) : Alike same (.array vs) (.array ws)

/-- Values of one shape with the same leaves, doubles compared by their bits. -/
abbrev AlikeInBits : Value → Value → Prop := Alike fun x y => x.bits = y.bits

mutual

theorem sameBits_iff_alike : ∀ {v w : Value}, sameBits v w = true ↔ AlikeInBits v w
  | .bool b, _ => ⟨fun h => eq_of_sameBits h ▸ .bool b, fun | .bool _ => sameBits_refl _⟩
  | .i64 n, _ => ⟨fun h => eq_of_sameBits h ▸ .i64 n, fun | .i64 _ => sameBits_refl _⟩
  | .u64 n, _ => ⟨fun h => eq_of_sameBits h ▸ .u64 n, fun | .u64 _ => sameBits_refl _⟩
  | .str s, _ => ⟨fun h => eq_of_sameBits h ▸ .str s, fun | .str _ => sameBits_refl _⟩
  | .f64 x, w => by
    cases w with
    | f64 y => exact beq_iff_eq.trans ⟨fun h => .f64 h, fun | .f64 h => h⟩
    | _ => exact ⟨nofun, nofun⟩
  | .array vs, w => by
    cases w with
    | array ws => exact allSameBits_iff_alike.trans ⟨fun h => .array h, fun | .array h => h⟩
    | _ => exact ⟨nofun, nofun⟩

theorem allSameBits_iff_alike : ∀ {vs ws : List Value},
    allSameBits vs ws = true ↔ List.Forall₂ AlikeInBits vs ws
  | [], [] => by simp [allSameBits]
  | [], _ :: _ | _ :: _, [] => by simp [allSameBits]
  | v :: vs, w :: ws => by
    rw [allSameBits, Bool.and_eq_true, sameBits_iff_alike, allSameBits_iff_alike, List.forall₂_cons]

end

theorem alikeInBits_iff {v w : Value} : AlikeInBits v w ↔ v = w := sameBits_iff_alike.symm.trans sameBits_iff

/-- A value in an array, this one in another array, and so on, with what stands before and behind in each. -/
def within : List (List Value × List Value) → Value → Value
  | [], v => v
  | (before, after) :: rows, v => .array (before ++ within rows v :: after)
termination_by structural rows => rows

theorem within_inj {rows : List (List Value × List Value)} {v w : Value} :
    within rows v = within rows w ↔ v = w := by
  induction rows with
  | nil => exact Iff.rfl
  | cons row rows ih => simp [within, ih]

end Value

/-! ## The pieces of a key -/

/-- Whether the pieces of something tell where they end, whatever other pieces may follow. -/
def Delimited {α : Type} (pieces : α → List HashPiece) (a : α) : Prop :=
  ∀ (b : α) (xs ys : List HashPiece), pieces a ++ xs = pieces b ++ ys → a = b ∧ xs = ys

/-- Once their number is known, a row of things that tell where they end does so itself. -/
theorem Delimited.flatMap {α : Type} {pieces : α → List HashPiece} {as bs : List α} {xs ys : List HashPiece}
    (h : ∀ a ∈ as, Delimited pieces a) (hlength : as.length = bs.length)
    (heq : as.flatMap pieces ++ xs = bs.flatMap pieces ++ ys) : as = bs ∧ xs = ys := by
  induction as generalizing bs with
  | nil =>
    obtain rfl : bs = [] := List.length_eq_zero_iff.mp hlength.symm
    exact ⟨rfl, heq⟩
  | cons a as ih =>
    obtain ⟨ha, has⟩ := List.forall_mem_cons.mp h
    cases bs with
    | nil => cases hlength
    | cons b bs =>
      rw [List.flatMap_cons, List.flatMap_cons, List.append_assoc, List.append_assoc] at heq
      obtain ⟨rfl, hrest⟩ := ha b _ _ heq
      obtain ⟨rfl, rfl⟩ := ih has (Nat.succ.inj hlength) hrest
      exact ⟨rfl, rfl⟩

namespace Value

theorem feedAll_eq (vs : List Value) : feedAll vs = vs.flatMap feed := by
  induction vs with
  | nil => rfl
  | cons v vs ih => rw [feedAll, ih, List.flatMap_cons]

mutual

/-- The kind of a value tells what follows, and the length of an array how many values do. -/
theorem delimited_feed : ∀ v : Value, Delimited feed v
  | .bool _, w, _, _, h | .i64 _, w, _, _, h | .u64 _, w, _, _, h | .str _, w, _, _, h => by
    cases w <;> simp_all [feed]
  | .f64 ⟨_⟩, w, _, _, h => by
    cases w with
    | f64 y => obtain ⟨_⟩ := y; simp_all [feed]
    | _ => simp [feed] at h
  | .array vs, w, _, _, h => by
    cases w with
    | array ws =>
      -- the arrays have the same length, so their values are told apart one after the other
      simp only [feed, feedAll_eq, List.cons_append, List.cons.injEq, HashPiece.length.injEq, true_and] at h
      obtain ⟨rfl, hrest⟩ := Delimited.flatMap (delimited_feedAll vs) h.1 h.2
      exact ⟨rfl, hrest⟩
    | _ => simp [feed] at h

theorem delimited_feedAll : ∀ vs : List Value, ∀ v ∈ vs, Delimited feed v
  | [] => nofun
  | v :: vs => List.forall_mem_cons.mpr ⟨delimited_feed v, delimited_feedAll vs⟩

end

end Value

namespace Attributes

theorem delimited_feed (a : Attributes) : Delimited feed a := by
  intro b xs ys h
  have hentry : ∀ e ∈ a.toList, Delimited (fun e => .text e.1 :: e.2.feed) e := by
    rintro ⟨name, v⟩ - ⟨other, w⟩ us vs he
    obtain ⟨hname, hvalue⟩ := List.cons.inj he
    obtain ⟨rfl, rfl⟩ := v.delimited_feed w us vs hvalue
    cases hname
    exact ⟨rfl, rfl⟩
  obtain ⟨hlength, hrest⟩ := List.cons.inj h
  obtain ⟨hentries, hxs⟩ := Delimited.flatMap hentry (HashPiece.length.inj hlength) hrest
  obtain ⟨_, _⟩ := a
  obtain ⟨_, _⟩ := b
  cases hentries
  exact ⟨rfl, hxs⟩

/-- The pieces of a key begin those of no other key. -/
theorem sameKey_iff_prefix {a b : Attributes} : sameKey a b = true ↔ a.feed <+: b.feed := by
  constructor
  · intro h
    exact feed_eq_of_sameKey h ▸ List.prefix_rfl
  · rintro ⟨rest, h⟩
    obtain ⟨hab, -⟩ := a.delimited_feed b rest [] (h.trans (List.append_nil _).symm)
    exact sameKey_iff.mpr hab

/-! ## Keys -/

/-- What a hasher has made of a set of attributes, from a state on. -/
def hashed {σ : Type} (write : σ → HashPiece → σ) (start : σ) (a : Attributes) : σ := a.feed.foldl write start

/-- Two sets are one key just if no hasher can tell them apart. -/
theorem sameKey_iff_hashed {a b : Attributes} :
    sameKey a b = true ↔ ∀ (σ : Type) (write : σ → HashPiece → σ) (start : σ),
      a.hashed write start = b.hashed write start := by
  constructor
  · intro h σ write start
    rw [hashed, feed_eq_of_sameKey h, hashed]
  · intro h
    -- a hasher that keeps all it is told, the last piece first
    have hkept : a.feed.reverse = b.feed.reverse := by
      simpa [hashed] using h (List HashPiece) (fun told piece => piece :: told) []
    exact sameKey_iff_prefix.mpr (List.reverse_inj.mp hkept ▸ List.prefix_rfl)

theorem sameKey_iff_alike {a b : Attributes} :
    sameKey a b = true ↔ ∀ name, Option.Rel Value.AlikeInBits (a.get? name) (b.get? name) := by
  rw [sameKey_iff]
  constructor
  · rintro rfl name
    cases a.get? name with
    | none => exact .none
    | some v => exact .some (Value.alikeInBits_iff.mpr rfl)
  · intro h
    refine SortedMap.ext_get? fun name => ?_
    have hname := h name
    generalize a.get? name = v, b.get? name = w at hname
    cases hname with
    | none => rfl
    | some halike => rw [Value.alikeInBits_iff.mp halike]

/-- Under one name, all that counts is the value. -/
theorem sameKey_insert_iff {a : Attributes} {name : String} {v w : Value} :
    sameKey (a.insert name v) (a.insert name w) = true ↔ v = w := by
  rw [sameKey_iff]
  refine ⟨fun h => ?_, congrArg _⟩
  have hname := congrArg (·.get? name) h
  simpa only [SortedMap.get?_insert, if_true, Option.some.injEq] using hname

/-- The comparison of attributes is an equivalence relation.  Two sets are one key just if they have the
same names with values of one shape and the same leaves, where doubles are compared by their bits,
however many arrays they are in.  And they are one key just if every hasher is told the same. -/
theorem lawful_key :
    Equivalence (fun a b : Attributes => a.sameKey b = true) ∧
    (∀ a b : Attributes,
      a.sameKey b = true ↔ ∀ name, Option.Rel Value.AlikeInBits (a.get? name) (b.get? name)) ∧
    (∀ (a : Attributes) (name : String) (rows : List (List Value × List Value)) (x y : Binary64),
      sameKey (a.insert name (.within rows (.f64 x))) (a.insert name (.within rows (.f64 y))) = true ↔
        x.bits = y.bits) ∧
    ∀ a b : Attributes,
      a.sameKey b = true ↔ ∀ (σ : Type) (write : σ → HashPiece → σ) (start : σ),
        a.hashed write start = b.hashed write start := by
  refine ⟨⟨?refl, ?symm, ?trans⟩, fun _ _ => sameKey_iff_alike, ?doubles, fun _ _ => sameKey_iff_hashed⟩
  case refl => exact fun a => sameKey_iff.mpr rfl
  case symm => exact fun h => sameKey_iff.mpr (sameKey_iff.mp h).symm
  case trans => exact fun h k => sameKey_iff.mpr ((sameKey_iff.mp h).trans (sameKey_iff.mp k))
  case doubles =>
    rintro a name rows ⟨x⟩ ⟨y⟩
    rw [sameKey_insert_iff, Value.within_inj, Value.f64.injEq, Binary64.mk.injEq]

end Attributes

end Telemetry
