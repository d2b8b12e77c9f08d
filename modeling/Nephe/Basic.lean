import Mathlib.Data.List.AList
import Mathlib.Data.List.Basic
import Mathlib.Data.List.DropRight

/-!
# Go strings, Go maps, Kubernetes names and call logs

The cloud plugins work on a few kinds of values: Go strings, compared, lowercased, trimmed and
split with the `strings` package; Go maps, which keep the plugins' state and whose `range` visits
entries in an unspecified order; and the Kubernetes `types.NamespacedName` that keys accounts and
selectors, rendered as `namespace/name`.

The stateful components (the account registry, the filter store) are specified over the log of
what each call did. `SinceLast` is the one notion those specifications share: an event happened,
and nothing that would undo it happened after it.

A Go string is modelled as its sequence of runes, so that string facts are list facts. The case
mapping of `strings.ToLower` is applied rune by rune, with the rune mapping of `Char.toLower`,
which lowers ASCII letters only: the model is Go's on ASCII text, which the cloud IDs, names and
regions the plugins lower are, and not beyond it.

## Main definitions

* `Nephe.GoString` — a Go string, as the list of its runes
* `Nephe.Strings.toLower`, `equalFold`, `trimSpace`, `split` — the `strings` functions the
  plugins call
* `Nephe.GoMap` — a Go map, as an association list with distinct keys
* `Nephe.NamespacedName`, `NamespacedName.string` — `types.NamespacedName` and its `String()`
* `Nephe.SinceLast` — an event of a log with no stopping event after it

## Main results

* `Nephe.NamespacedName.string_inj` — on slash-free components `String()` is injective
* `Nephe.NamespacedName.split_string` — splitting `String()` on `/` gives back the components
* `Nephe.Strings.append_cons_inj` — a string splits uniquely at the first occurrence of a rune
  its prefixes do not hold
* `Nephe.sinceLast_append_singleton` — how one more event changes `SinceLast`
* `Nephe.GoMap.lookup_foldl_insert` — inserting a list under computed keys leaves the last element
  of each key
-/

namespace Nephe

/-- A Go string, as the sequence of its runes. -/
abbrev GoString := List Char

/-- The text of a Go `error` value. -/
abbrev GoError := GoString

namespace Strings

/-- `strings.ToLower`, for ASCII text: `Char.toLower` lowers the letters `A` to `Z` only, where Go
lowers every Unicode letter. The two agree on the ASCII IDs, names and regions the plugins
lower. -/
def toLower (s : GoString) : GoString :=
  s.map Char.toLower

/-- `strings.EqualFold`, for ASCII text: equality once the ASCII letters are lowered, where Go
folds every Unicode case pair (such as `ſ` with `s`, or the Kelvin sign with `k`). -/
def equalFold (s t : GoString) : Bool :=
  toLower s == toLower t

/-- `unicode.IsSpace`: the runes with the Unicode White_Space property. -/
def isSpace (c : Char) : Bool :=
  c.toNat ∈ [0x09, 0x0A, 0x0B, 0x0C, 0x0D, 0x20, 0x85, 0xA0, 0x1680, 0x2000, 0x2001, 0x2002,
    0x2003, 0x2004, 0x2005, 0x2006, 0x2007, 0x2008, 0x2009, 0x200A, 0x2028, 0x2029, 0x202F,
    0x205F, 0x3000]

/-- `strings.TrimSpace`: the string without its leading and trailing white space. -/
def trimSpace (s : GoString) : GoString :=
  (s.dropWhile isSpace).rdropWhile isSpace

/-- `strings.Split(s, sep)` for a one-rune separator: the pieces between the separators. -/
def split (s : GoString) (sep : Char) : List GoString :=
  s.splitOn sep

@[simp] theorem equalFold_iff {s t : GoString} : equalFold s t = true ↔ toLower s = toLower t := by
  simp [equalFold]

/-- The runes before the first `c` of `a ++ c :: s`, when `a` holds no `c`, are `a`. -/
theorem takeWhile_append_cons {c : Char} {a : GoString} (ha : c ∉ a) (s : GoString) :
    (a ++ c :: s).takeWhile (· != c) = a := by
  rw [List.takeWhile_append_of_pos fun x hx => bne_iff_ne.2 (ne_of_mem_of_not_mem hx ha)]
  simp

/-- A string splits uniquely at the first occurrence of a rune that neither prefix holds. -/
theorem append_cons_inj {c : Char} {a b s t : GoString} (ha : c ∉ a) (hb : c ∉ b) :
    a ++ c :: s = b ++ c :: t ↔ a = b ∧ s = t := by
  constructor
  · intro h
    obtain rfl : a = b := by rw [← takeWhile_append_cons ha s, h, takeWhile_append_cons hb t]
    simpa using h
  · rintro ⟨rfl, rfl⟩; rfl

/-- Splitting the join of slash-free pieces gives the pieces back. -/
theorem split_intercalate {pieces : List GoString} (free : ∀ p ∈ pieces, '/' ∉ p)
    (nonempty : pieces ≠ []) : split (['/'].intercalate pieces) '/' = pieces :=
  List.splitOn_intercalate _ '/' free nonempty

/-- Joining the pieces of a split gives the string back. -/
theorem intercalate_split (s : GoString) : ['/'].intercalate (split s '/') = s :=
  List.intercalate_splitOn _ '/'

end Strings

/-- A Go map. Keys are distinct; the order of `entries` is one order in which `range` may visit
them, and Go leaves that order unspecified. -/
abbrev GoMap (K V : Type) := AList fun _ : K => V

/-- The values of a Go map, in the order of its entries. -/
def GoMap.values {K V : Type} (m : GoMap K V) : List V :=
  m.entries.map Sigma.snd

theorem GoMap.mem_values_of_lookup {K V : Type} [DecidableEq K] {m : GoMap K V} {k : K} {v : V}
    (h : m.lookup k = some v) : v ∈ m.values :=
  List.mem_map_of_mem Sigma.snd (AList.mem_lookup_iff.1 h)

theorem GoMap.exists_lookup_of_mem_values {K V : Type} [DecidableEq K] {m : GoMap K V} {v : V}
    (h : v ∈ m.values) : ∃ k, m.lookup k = some v := by
  obtain ⟨⟨k, v⟩, hmem, rfl⟩ := List.mem_map.1 h
  exact ⟨k, AList.mem_lookup_iff.2 hmem⟩

/-- Inserting the elements of a list under the keys `f x`, in order: each key holds the last
element with that key, or what it held before. -/
theorem GoMap.lookup_foldl_insert {K V : Type} [DecidableEq K] (f : V → K) (l : List V)
    (m : GoMap K V) (k : K) :
    (l.foldl (fun m x => m.insert (f x) x) m).lookup k =
      (l.reverse.find? fun x => f x = k).or (m.lookup k) := by
  induction l generalizing m with
  | nil => simp
  | cons x rest ih =>
    rw [List.foldl_cons, ih, List.reverse_cons, List.find?_append, Option.or_assoc]
    by_cases hx : f x = k
    · subst hx; simp
    · simp [hx, AList.lookup_insert_ne (Ne.symm hx)]

/-- Deleting a key twice deletes it once. -/
theorem GoMap.erase_erase_self {K V : Type} [DecidableEq K] (m : GoMap K V) (k : K) :
    (m.erase k).erase k = m.erase k :=
  AList.ext (List.kerase_of_not_mem_keys fun h => (AList.mem_erase.1 (AList.mem_keys.2 h)).1 rfl)

/-- `types.NamespacedName`. -/
structure NamespacedName where
  Namespace : GoString
  Name : GoString
  deriving DecidableEq, Repr

namespace NamespacedName

/-- `NamespacedName.String()`: the namespace and the name joined by `/`. -/
def string (n : NamespacedName) : GoString :=
  n.Namespace ++ '/' :: n.Name

/-- Neither component holds a `/`, as Kubernetes guarantees for namespaces and names. -/
def SlashFree (n : NamespacedName) : Prop :=
  '/' ∉ n.Namespace ∧ '/' ∉ n.Name

instance (n : NamespacedName) : Decidable n.SlashFree :=
  inferInstanceAs (Decidable (_ ∧ _))

theorem string_eq_intercalate (n : NamespacedName) :
    n.string = ['/'].intercalate [n.Namespace, n.Name] := by
  simp [string, List.intercalate]

/-- `String()` of a slash-free name splits back into its two components. -/
theorem split_string {n : NamespacedName} (free : n.SlashFree) :
    Strings.split n.string '/' = [n.Namespace, n.Name] := by
  rw [string_eq_intercalate]
  exact Strings.split_intercalate (by simpa using free) (List.cons_ne_nil _ _)

/-- On slash-free names `String()` is injective: the key `namespace/name` determines the name. -/
theorem string_inj {a b : NamespacedName} (ha : a.SlashFree) (hb : b.SlashFree) :
    a.string = b.string ↔ a = b := by
  refine ⟨fun h => ?_, congrArg string⟩
  have hsplit := split_string hb
  rw [← h, split_string ha] at hsplit
  simp only [List.cons.injEq, and_true] at hsplit
  cases a; cases b
  simp_all

end NamespacedName

section Log

variable {E : Type} {log : List E} {e x : E} {stop : E → Prop}

/-- `e` occurs in `log`, and no event satisfying `stop` comes after that occurrence. -/
def SinceLast (log : List E) (e : E) (stop : E → Prop) : Prop :=
  ∃ pre post, log = pre ++ e :: post ∧ ∀ e' ∈ post, ¬ stop e'

@[simp] theorem sinceLast_nil : ¬ SinceLast [] e stop := by
  simp [SinceLast]

/-- One more event `x`: either it is `e` itself, or `e` held before and `x` does not stop it. -/
theorem sinceLast_append_singleton :
    SinceLast (log ++ [x]) e stop ↔ e = x ∨ (SinceLast log e stop ∧ ¬ stop x) := by
  constructor
  · rintro ⟨pre, post, hlog, hpost⟩
    rcases List.eq_nil_or_concat post with rfl | ⟨post', y, rfl⟩
    · obtain ⟨-, hx⟩ := List.append_inj' hlog rfl
      simp only [List.cons.injEq, and_true] at hx
      exact .inl hx.symm
    · rw [List.concat_eq_append] at hlog hpost
      rw [← List.cons_append, ← List.append_assoc] at hlog
      obtain ⟨rfl, hy⟩ := List.append_inj' hlog rfl
      simp only [List.cons.injEq, and_true] at hy
      subst hy
      exact .inr ⟨⟨pre, post', rfl, fun e' he' => hpost e' (by simp [he'])⟩,
        hpost x (by simp)⟩
  · rintro (rfl | ⟨⟨pre, post, rfl, hpost⟩, hx⟩)
    · exact ⟨log, [], rfl, by simp⟩
    · refine ⟨pre, post ++ [x], by simp, fun e' he' => ?_⟩
      rcases List.mem_append.1 he' with he' | he'
      · exact hpost e' he'
      · rw [List.mem_singleton.1 he']; exact hx

theorem SinceLast.mem (h : SinceLast log e stop) : e ∈ log := by
  obtain ⟨pre, post, rfl, -⟩ := h
  simp

/-- Fewer stopping events keep `SinceLast`. -/
theorem SinceLast.mono {stop' : E → Prop} (h : SinceLast log e stop)
    (weaker : ∀ x, stop' x → stop x) : SinceLast log e stop' := by
  obtain ⟨pre, post, hlog, hpost⟩ := h
  exact ⟨pre, post, hlog, fun x hx h' => hpost x hx (weaker x h')⟩

/-- If `e` satisfies `P` and holds since the last `stop`, some event satisfying `P` holds since the
last event that stops or satisfies `P`: the last event satisfying `P`. -/
theorem SinceLast.last_of {P : E → Prop} (h : SinceLast log e stop) (he : P e) :
    ∃ e', P e' ∧ SinceLast log e' (fun x => stop x ∨ P x) := by
  obtain ⟨pre, post, rfl, hpost⟩ := h
  induction post using List.reverseRecOn with
  | nil => exact ⟨e, he, pre, [], rfl, by simp⟩
  | append_singleton post x ih =>
    have hx : ¬ stop x := hpost x (by simp)
    by_cases px : P x
    · exact ⟨x, px, pre ++ e :: post, [], by simp, by simp⟩
    · obtain ⟨e', pe', since⟩ := ih fun y hy => hpost y (by simp [hy])
      have hlog : pre ++ e :: (post ++ [x]) = (pre ++ e :: post) ++ [x] := by simp
      rw [hlog]
      exact ⟨e', pe', sinceLast_append_singleton.2 (.inr ⟨since, by simp [hx, px]⟩)⟩

/-- An event that is neither `e` nor stops it leaves `SinceLast` as it was. -/
theorem sinceLast_append_other (hne : e ≠ x) (hx : ¬ stop x) :
    SinceLast (log ++ [x]) e stop ↔ SinceLast log e stop := by
  simp [sinceLast_append_singleton, hne, hx]

end Log

end Nephe
