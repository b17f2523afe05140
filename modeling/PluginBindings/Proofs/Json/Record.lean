import PluginBindings.Json.Record
import PluginBindings.Proofs.Json.Skipping

namespace PluginBindings
namespace Json

inductive MemberOf (names : List Text) (Value : Text → Text → Prop) (name item : Text) : Prop where
  | written (key : Spells part name) (known : name ∈ names → Value name value)
      (other : name ∉ names → ValueText value) (spelled : MemberText part value item)

def among (names keys : List Text) : List Text := keys.filter (· ∈ names)

theorem among_append (names keys keys' : List Text) :
    among names (keys ++ keys') = among names keys ++ among names keys' := List.filter_append ..

theorem among_listed (listed : name ∈ names) : among names [name] = [name] :=
  List.filter_cons_of_pos (decide_eq_true listed)

theorem among_unlisted (unlisted : name ∉ names) : among names [name] = [] :=
  List.filter_cons_of_neg (by simpa using unlisted)

theorem mem_among : name ∈ among names keys ↔ name ∈ keys ∧ name ∈ names := by simp [among]

-- As an object, in any order and each field only once, or as a list of the first ones.
inductive RecordText (names : List Text) (Value : Text → Text → Prop) :
    List Text → Text → Prop where
  | object (members : List.Forall₂ (MemberOf names Value) keys items)
      (once : (among names keys).Nodup) (written : Bracketed .object items text) :
      RecordText names Value (among names keys) text
  | list (elements : List.Forall₂ Value (names.take values.length) values)
      (written : Bracketed .list values text) :
      RecordText names Value (names.take values.length) text

-- A field reads its value, and `fill` is the record that has the values of the names it is given.
structure Fills (field : Field σ) (Value : Text → Prop) (fill : List Text → σ) : Prop where
  opens : ∀ value, Value value → Opens value
  sets : ∀ value, Value value → ∃ set,
    (∀ front rest, Gap front → Ends rest → Reads field.read (front ++ (value ++ rest)) set rest) ∧
      ∀ filled, set (fill filled) = fill (field.name :: filled)

-- What stands before an item: nothing before the first one, else what follows the item before it.
inductive Before : Bool → Text → Prop where
  | first : Before true []
  | next (gap : Gap back) : Before false (back ++ [','])

theorem reads_atMember (before : Before first lead) (gap : Gap front) (source : Text) :
    Reads (Read.atMember first) (lead ++ (front ++ '"' :: source)) true ('"' :: source) := by
  have key : Stops isGap ('"' :: source) := stops_cons.mpr (by decide)
  cases before with
  | first =>
    rw [List.nil_append]
    exact reads_seeking gap key (reads_pure true _)
  | next after =>
    rw [List.append_assoc, List.singleton_append]
    exact reads_seeking after (stops_cons.mpr (by decide))
      (reads_skipping (reads_seeking gap key (reads_pure true _)))

theorem members_end (gap : Gap back) (fields : List (Field σ)) (seen : List Text) (first : Bool)
    (record : σ) (rounds : Nat) (rest : Text) :
    Reads (Read.members fields seen first record (rounds + 1)) (back ++ '}' :: rest) record rest :=
  reads_bind (reads_seeking gap (stops_cons.mpr (by decide)) (reads_pure false _))
    (reads_skipping (reads_pure record rest))

variable {fields : List (Field σ)} {Value : Text → Text → Prop} {fill : List Text → σ}

theorem member_read (fills : ∀ field ∈ fields, Fills field (Value field.name) fill)
    (member : MemberOf (fields.map (·.name)) Value name item) (before : Before first lead)
    (gap : Gap front) (ends : Ends rest) (fresh : name ∈ fields.map (·.name) → name ∉ seen)
    (later : Reads (Read.members fields (among (fields.map (·.name)) [name] ++ seen) false
      (fill (among (fields.map (·.name)) [name] ++ seen)) rounds) rest answer out) :
    Reads (Read.members fields seen first (fill seen) (rounds + 1))
      (lead ++ (front ++ (item ++ rest))) answer out := by
  obtain ⟨key, known, other, spelled⟩ := member
  cases spelled with
  | @written between after blank gapped =>
    simp only [quoted, List.cons_append, List.append_assoc, List.nil_append]
    refine reads_bind (reads_atMember before gap _) (reads_skipping ?_)
    refine reads_bind (reads_string key _) ?_
    split
    · rename_i absent
      have unlisted : name ∉ fields.map (·.name) := by simpa using absent
      rw [among_unlisted unlisted] at later
      refine reads_bind (reads_colon blank _) ?_
      exact reads_bind (reads_ignoreValue (other unlisted) gapped ends) later
    · rename_i field found
      have declared := List.mem_of_find?_eq_some found
      obtain rfl : field.name = name := by simpa using List.find?_some found
      have listed : field.name ∈ fields.map (·.name) := List.mem_map_of_mem declared
      obtain ⟨set, read, filled⟩ := (fills field declared).sets _ (known listed)
      rw [among_listed listed] at later
      rw [if_neg (by simpa using fresh listed)]
      refine reads_bind (reads_colon blank _) (reads_bind (read _ _ gapped ends) ?_)
      rw [filled]
      exact later

-- By induction on the list of members, with those that were read before in `seen`.
theorem members_read (fills : ∀ field ∈ fields, Fills field (Value field.name) fill)
    (listed : Listed items inside)
    (members : List.Forall₂ (MemberOf (fields.map (·.name)) Value) keys items)
    (before : Before first lead) (once : (among (fields.map (·.name)) keys).Nodup)
    (fresh : ∀ name ∈ among (fields.map (·.name)) keys, name ∉ seen)
    (enough : items.length < rounds) (rest : Text) :
    Reads (Read.members fields seen first (fill seen) rounds) (lead ++ (inside ++ '}' :: rest))
      (fill (among (fields.map (·.name)) keys.reverse ++ seen)) rest := by
  induction listed generalizing keys seen first lead rounds with
  | last gap after =>
    obtain ⟨name, keys, member, none, rfl⟩ := List.forall₂_cons_right_iff.mp members
    cases none
    obtain ⟨left, rfl⟩ : ∃ left, rounds = left + 2 := ⟨rounds - 2, by
      rw [List.length_singleton] at enough
      omega⟩
    simp only [List.append_assoc]
    refine member_read fills member before gap (gap_ends after (closing_ends .object rest)) ?_
      (members_end after fields _ false _ left rest)
    exact fun named => fresh name (mem_among.mpr ⟨List.mem_cons_self, named⟩)
  | @next front back other items text item gap after later ih =>
    obtain ⟨name, keys, member, others, rfl⟩ := List.forall₂_cons_right_iff.mp members
    obtain ⟨left, rfl⟩ : ∃ left, rounds = left + 1 := ⟨rounds - 1, by omega⟩
    have parts := among_append (fields.map (·.name)) [name] keys
    rw [List.singleton_append] at parts
    rw [parts] at once
    obtain ⟨-, single, apart⟩ := List.nodup_append.mp once
    have renewed : ∀ key ∈ among (fields.map (·.name)) keys,
        key ∉ among (fields.map (·.name)) [name] ++ seen := by
      intro key among taken
      rcases List.mem_append.mp taken with same | earlier
      · exact apart key same key among rfl
      · exact fresh key (parts ▸ List.mem_append_right _ among) earlier
    have rounds : (other :: items).length < left := by
      simp only [List.length_cons] at enough ⊢
      omega
    have followed := ih others (.next after) single renewed rounds
    rw [List.append_assoc, List.singleton_append] at followed
    rw [List.reverse_cons, among_append, List.append_assoc]
    simp only [List.append_assoc, List.cons_append]
    refine member_read fills member before gap (gap_ends after (comma_ends _)) ?_ followed
    exact fun named => fresh name (mem_among.mpr ⟨List.mem_cons_self, named⟩)

theorem reads_atElement (before : Before first lead) (gap : Gap front) (opens : Opens value)
    (rest : Text) : Reads (Read.atElement first) (lead ++ (front ++ (value ++ rest))) true
      (value ++ rest) := by
  obtain ⟨c, tail, rfl, solid, other⟩ := opens
  have begins : Stops isGap (c :: tail ++ rest) := stops_cons.mpr solid
  have inside : (c == ']') = false := beq_false_of_ne other
  cases before with
  | first =>
    rw [List.nil_append]
    refine reads_seeking gap begins ?_
    rw [List.cons_append, List.head?_cons]
    dsimp only
    rw [inside]
    exact reads_pure true _
  | next after =>
    rw [List.append_assoc, List.singleton_append]
    refine reads_seeking after (stops_cons.mpr (by decide)) (reads_skipping (reads_seeking gap begins ?_))
    rw [List.cons_append, List.head?_cons]
    dsimp only
    rw [inside]
    exact reads_pure true _

theorem element_read (fills : Fills field (Value field.name) fill) (given : Value field.name value)
    (before : Before first lead) (gap : Gap front) (ends : Ends rest)
    (later : Reads (Read.elements (fill (field.name :: filled)) false fields) rest answer out) :
    Reads (Read.elements (fill filled) first (field :: fields)) (lead ++ (front ++ (value ++ rest)))
      answer out := by
  obtain ⟨set, read, sets⟩ := fills.sets value given
  refine reads_bind (reads_atElement before gap (fills.opens value given) rest) ?_
  rw [if_pos rfl]
  refine reads_bind (read [] rest (List.forall_mem_nil _) ends) ?_
  rw [sets]
  exact later

theorem elements_end (gap : Gap back) (fields : List (Field σ)) (first : Bool) (record : σ)
    (rest : Text) : ∃ front, Gap front ∧
      Reads (Read.elements record first fields) (back ++ ']' :: rest) record (front ++ ']' :: rest) := by
  cases fields with
  | nil => exact ⟨back, gap, reads_pure record _⟩
  | cons field fields =>
    have ended : Reads (Read.atElement first) (back ++ ']' :: rest) false (']' :: rest) :=
      reads_seeking gap (stops_cons.mpr (by decide)) (reads_pure false _)
    exact ⟨[], List.forall_mem_nil _, reads_bind ended (reads_pure record _)⟩

-- By induction on the list of values, with the fields that are left for them.
theorem elements_read (fills : ∀ field ∈ fields, Fills field (Value field.name) fill)
    (listed : Listed values inside)
    (elements : List.Forall₂ Value ((fields.map (·.name)).take values.length) values)
    (before : Before first lead) (filled : List Text) (rest : Text) : ∃ front, Gap front ∧
      Reads (Read.elements (fill filled) first fields) (lead ++ (inside ++ ']' :: rest))
        (fill (((fields.map (·.name)).take values.length).reverse ++ filled))
        (front ++ ']' :: rest) := by
  induction listed generalizing fields first lead filled with
  | @last front back value gap after =>
    cases fields with
    | nil => cases elements
    | cons field fields =>
      cases elements with
      | cons given none =>
        obtain ⟨gap', blank, ended⟩ := elements_end after fields false (fill (field.name :: filled)) rest
        refine ⟨gap', blank, ?_⟩
        simp only [List.append_assoc]
        have ends := gap_ends after (closing_ends .list rest)
        exact element_read (fills field List.mem_cons_self) given before gap ends ended
  | @next front back other values text value gap after later ih =>
    cases fields with
    | nil => cases elements
    | cons field fields =>
      cases elements with
      | cons given others =>
        obtain ⟨fill, fills⟩ := List.forall_mem_cons.mp fills
        obtain ⟨gap', blank, followed⟩ := ih fills others (.next after) (field.name :: filled)
        refine ⟨gap', blank, ?_⟩
        rw [List.append_assoc, List.singleton_append] at followed
        simp only [List.append_assoc, List.cons_append]
        refine element_read fill given before gap (gap_ends after (comma_ends _)) ?_
        simpa using followed

theorem reads_closeList (gap : Gap back) (rest : Text) :
    Reads Read.closeList (back ++ ']' :: rest) () rest :=
  reads_seeking gap (stops_cons.mpr (by decide)) (reads_skip ']' rest)

theorem listed_commas (listed : Listed items inside) : items.length ≤ inside.length + 1 := by
  induction listed with
  | last before after =>
    simp only [List.length_singleton]
    omega
  | next before after later ih =>
    simp only [List.length_cons, List.length_append] at ih ⊢
    omega

theorem bracketed_parts (written : Bracketed bracket items text) (rest : Text) : ∃ inside,
    text ++ rest = bracket.opening :: (inside ++ bracket.closing :: rest) ∧
      (items = [] ∧ Gap inside ∨ Listed items inside) := by
  cases written with
  | @empty inside blank => exact ⟨inside, by simp, .inl ⟨rfl, blank⟩⟩
  | @full _ inside listed => exact ⟨inside, by simp, .inr listed⟩

theorem record_read (fills : ∀ field ∈ fields, Fills field (Value field.name) fill)
    (written : RecordText (fields.map (·.name)) Value keys text) (gap : Gap front) (expected rest : Text) :
    Reads (Read.record expected fields (fill [])) (front ++ (text ++ rest)) (fill keys.reverse) rest := by
  cases written with
  | @object keys items _ members once written =>
    obtain ⟨inside, parts, content⟩ := bracketed_parts written rest
    rw [parts]
    refine reads_seeking gap (stops_cons.mpr (by decide)) ?_
    refine reads_skipping (reads_bind (reads_remaining _) ?_)
    rcases content with ⟨rfl, blank⟩ | listed
    · cases members
      exact members_end blank fields [] true (fill []) _ rest
    · have enough : items.length < (inside ++ '}' :: rest).length + 1 := by
        have commas := listed_commas listed
        simp only [List.length_append, List.length_cons]
        omega
      have read := members_read fills listed members .first once (fun _ _ => List.not_mem_nil) enough rest
      rw [List.append_nil] at read
      rw [among, ← List.filter_reverse]
      exact read
  | @list values _ elements written =>
    obtain ⟨inside, parts, content⟩ := bracketed_parts written rest
    rw [parts]
    refine reads_seeking gap (stops_cons.mpr (by decide)) (reads_skipping ?_)
    rcases content with ⟨rfl, blank⟩ | listed
    · obtain ⟨gap', left, ended⟩ := elements_end blank fields true (fill []) rest
      exact reads_bind ended (reads_bind (reads_closeList left rest) (reads_pure _ rest))
    · obtain ⟨gap', left, read⟩ := elements_read fills listed elements .first [] rest
      rw [List.append_nil] at read
      exact reads_bind read (reads_bind (reads_closeList left rest) (reads_pure _ rest))

theorem quoted_opens (written : Text) : Opens (quoted written) := ⟨_, _, rfl, by decide, by decide⟩

theorem bracketed_opens (written : Bracketed bracket items text) : Opens text := by
  obtain ⟨solid, other⟩ := opening_facts bracket
  cases written <;> exact ⟨_, _, rfl, solid, other⟩

theorem recordText_opens (written : RecordText names Value keys text) : Opens text := by
  cases written with
  | object members once written => exact bracketed_opens written
  | list elements written => exact bracketed_opens written

theorem ofNat_opens (n : Nat) : Opens (Text.ofNat n) := by
  obtain ⟨full, digit⟩ := ofNat_digits n
  obtain ⟨c, digits, given⟩ := List.exists_cons_of_ne_nil full
  rw [given] at digit ⊢
  have here := digit c List.mem_cons_self
  exact ⟨c, digits, rfl, digit_solid here, beq_eq_false_iff_ne.mp (digit_other here (by decide))⟩

theorem reads_stringFor (expected : Text) (spells : Spells written text) (gap : Gap front)
    (rest : Text) :
    Reads (Read.stringFor expected) (front ++ (quoted written ++ rest)) text rest := by
  simp only [quoted, List.cons_append, List.append_assoc, List.nil_append]
  exact reads_seeking gap (stops_cons.mpr (by decide)) (reads_skipping (reads_string spells rest))

theorem document_read {value : Read α} (read : Reads value source answer back) (gap : Gap back) :
    Read.document value source = .ok answer := by
  obtain ⟨after, there, taken⟩ := read (.start source) rfl
  have none : Reads Read.peekAfterBlanks (back ++ []) none [] :=
    reads_bind (reads_blanks gap stops_nil) (reads_peek [])
  obtain ⟨final, -, ended⟩ := none after (there.trans (List.append_nil back).symm)
  rw [Read.document, taken]
  dsimp only [bind, Except.bind]
  rw [ended]
  rfl

theorem items_listed (item : Text) (items : List Text) :
    ∃ inside, Listed (item :: items) inside := by
  have none : Gap [] := List.forall_mem_nil _
  induction items generalizing item with
  | nil => exact ⟨_, .last none none⟩
  | cons other items ih =>
    obtain ⟨inside, listed⟩ := ih other
    exact ⟨_, .next none none listed⟩

theorem items_bracketed (bracket : Bracket) (items : List Text) :
    ∃ text, Bracketed bracket items text := by
  cases items with
  | nil => exact ⟨_, .empty (List.forall_mem_nil _)⟩
  | cons item items =>
    obtain ⟨inside, listed⟩ := items_listed item items
    exact ⟨_, .full listed⟩

theorem member_written (values : ∀ name ∈ names, ∃ value, Value name value) (name : Text) :
    ∃ item, MemberOf names Value name item := by
  have none : Gap [] := List.forall_mem_nil _
  by_cases listed : name ∈ names
  · obtain ⟨value, given⟩ := values name listed
    have known : name ∈ names → Value name value := fun _ => given
    exact ⟨_, .written (quote_spells name) known (absurd listed) (.written none none)⟩
  · have other : name ∉ names → ValueText "null".toList := fun _ => .word (.inl rfl)
    exact ⟨_, .written (quote_spells name) (fun known => absurd known listed) other (.written none none)⟩

theorem record_written (values : ∀ name ∈ names, ∃ value, Value name value)
    (once : (among names keys).Nodup) : ∃ text, RecordText names Value (among names keys) text := by
  choose items members using member_written values
  obtain ⟨text, written⟩ := items_bracketed .object (keys.map items)
  have each : List.Forall₂ (MemberOf names Value) keys (keys.map items) :=
    List.forall₂_map_right_iff.mpr (List.forall₂_same.mpr fun name _ => members name)
  exact ⟨text, .object each once written⟩

end Json
end PluginBindings
