import PageSweep.Proofs.Service.Query
import PageSweep.Proofs.Sweep.Unrolled

/-!
# The Query of a Page Request

A page request appends its pairs to the query of the endpoint, whatever the texts in
them are. The separators are the only ones: the pairs of the endpoint read back as they
did before, the appended ones read back after them, and the service reads the page size,
both ends of the window and the cursor as they were given. Nothing that is appended has
to be escaped in a URL, so the query goes over the wire as it stands.

The endpoint may have a query of its own. Then a separator goes in between, unless that
query is empty. It makes no difference to the pairs how the old query ends: a separator
more only adds an empty piece, and empty pieces are skipped.

## Main definitions

* `Page.Query.added`: What a page request appends to the query of its endpoint.

## Theorems

* `inQuery_of_mem_encode`: What form encoding writes is kept by a query.
* `query_url_of_none`, `query_url_of_some`: The query of a request.
* `decode_query_url`: The pairs of a request.
* `decode_url`: What the service reads in the URL of a request.
-/

namespace PageSweep

namespace Form

theorem toNat_lt_of_isAlphanum (c : Char) (hc : c.isAlphanum = true) : c.toNat < 128 := by
  have hranges : ((decide (c.val ≥ 'A'.val ∧ c.val ≤ 'Z'.val)
      || (decide (c.val ≥ 'a'.val) && decide (c.val ≤ 'z'.val)))
      || (decide (c.val ≥ '0'.val) && decide (c.val ≤ '9'.val))) = true := hc
  simp only [Bool.or_eq_true, Bool.and_eq_true, decide_eq_true_eq, UInt32.le_iff_toNat_le,
    ge_iff_le] at hranges
  have hval : c.toNat = c.val.toNat := rfl
  have hupper : 'Z'.val.toNat = 90 := rfl
  have hlower : 'z'.val.toNat = 122 := rfl
  have hdigit : '9'.val.toNat = 57 := rfl
  omega

theorem toNat_lt_of_keeps (c : Char) (hc : keeps c = true) : c.toNat < 128 := by
  simp only [keeps, Bool.or_eq_true, decide_eq_true_eq] at hc
  rcases hc with (((h | rfl) | rfl) | rfl) | rfl
  · exact toNat_lt_of_isAlphanum c h
  all_goals decide

theorem inQuery_of_keeps (c : Char) (hc : keeps c = true) : Percent.inQuery true c = true := by
  have hascii : ∀ n < 128, keeps (Char.ofNat n) = true →
      Percent.inQuery true (Char.ofNat n) = true := by
    decide
  have hchar : Char.ofNat c.toNat = c := Char.ofNat_toNat c
  have h := hascii c.toNat (toNat_lt_of_keeps c hc)
  rw [hchar] at h
  exact h hc

theorem inQuery_upper : ∀ n < 16, Percent.inQuery true (Numeral.upper n) = true := by
  decide

theorem inQuery_of_mem_byte (b : UInt8) (c : Char) (hc : c ∈ Percent.byte b) :
    Percent.inQuery true c = true := by
  have hb : b.toNat < 256 := b.toNat_lt
  simp only [Percent.byte, List.mem_cons, List.not_mem_nil, or_false] at hc
  rcases hc with rfl | rfl | rfl
  · decide
  · exact inQuery_upper _ (by omega)
  · exact inQuery_upper _ (by omega)

theorem inQuery_of_mem_component (text : String) (c : Char) (hc : c ∈ component text) :
    Percent.inQuery true c = true := by
  rcases List.mem_flatMap.mp hc with ⟨d, -, hd⟩
  unfold character at hd
  by_cases hk : keeps d = true
  · rw [if_pos hk, List.mem_singleton] at hd
    rw [hd]
    exact inQuery_of_keeps d hk
  · rw [if_neg hk] at hd
    by_cases hs : d = ' '
    · rw [if_pos hs, List.mem_singleton] at hd
      rw [hd]
      decide
    · rw [if_neg hs] at hd
      rcases List.mem_flatMap.mp hd with ⟨b, -, hb⟩
      exact inQuery_of_mem_byte b c hb

theorem inQuery_of_mem_pair (entry : String × String) (c : Char) (hc : c ∈ pair entry) :
    Percent.inQuery true c = true := by
  rcases List.mem_append.mp hc with h | h
  · exact inQuery_of_mem_component entry.1 c h
  · rcases List.mem_cons.mp h with rfl | h
    · decide
    · exact inQuery_of_mem_component entry.2 c h

theorem inQuery_of_mem_encode (entries : List (String × String)) (c : Char)
    (hc : c ∈ encode entries) : Percent.inQuery true c = true := by
  induction entries with
  | nil => exact absurd hc List.not_mem_nil
  | cons entry rest ih =>
      cases rest with
      | nil => exact inQuery_of_mem_pair entry c hc
      | cons next more =>
          rcases List.mem_append.mp hc with h | h
          · exact inQuery_of_mem_pair entry c h
          · rcases List.mem_cons.mp h with rfl | h
            · decide
            · exact ih h

end Form

namespace Page

namespace Query

/-- What a page request appends to the query of its endpoint. -/
def added (query : Query) : String :=
  String.ofList (Form.encode query.pairs)

theorem decode_added (query : Query) : Form.decode query.added.toList = query.pairs := by
  rw [added, String.toList_ofList, Form.decode_encode]

theorem query_url_of_none (query : Query) (endpoint : Url) (hquery : endpoint.query = none) :
    query.url endpoint = endpoint.withQuery (some query.added) := by
  rw [url, hquery]
  rfl

/-- The query of a request, at an endpoint that has a query already. -/
theorem query_url_of_some (query : Query) (endpoint : Url) (old : String)
    (hquery : endpoint.query = some old) :
    query.url endpoint = endpoint.withQuery
      (some (if old = "" then query.added else old ++ "&" ++ query.added)) := by
  rw [url, hquery]
  simp only [String.isEmpty_iff]
  rfl

/-- The pairs of a request are those of the endpoint and then its own. -/
theorem decode_query_url (query : Query) (endpoint : Url) :
    ∃ text, query.url endpoint = endpoint.withQuery (some text) ∧
      Form.decode text.toList
        = (endpoint.query.elim [] fun old => Form.decode old.toList) ++ query.pairs := by
  cases hquery : endpoint.query with
  | none =>
      refine ⟨_, query_url_of_none query endpoint hquery, ?_⟩
      rw [decode_added]
      rfl
  | some old =>
      refine ⟨_, query_url_of_some query endpoint old hquery, ?_⟩
      by_cases hold : old = ""
      · -- An empty query has no pairs, and nothing stands between.
        rw [if_pos hold, hold, decode_added]
        rfl
      · rw [if_neg hold, String.toList_append, String.toList_append, List.append_assoc]
        refine (Form.decode_append_cons old.toList query.added.toList).trans ?_
        rw [decode_added]
        rfl

/-- What a page request asks for is what the service reads in its URL, for every page
size, every window and every cursor, whatever text they are. At an endpoint that has a
query already, its pairs come first. The rest of the URL stays as it is, and what is
appended needs no escaping in it. -/
theorem decode_url (query : Query) (endpoint : Url) :
    ∃ text, query.url endpoint = { endpoint with query := some text } ∧
      (∃ front back, endpoint.text = front ++ Url.delimited "?" endpoint.query ++ back ∧
        (query.url endpoint).text = front ++ "?" ++ text ++ back) ∧
      Form.decode text.toList = (endpoint.query.elim [] fun old => Form.decode old.toList) ++
        ([("limit", toString query.limit.val), ("time_from", query.window.start),
          ("time_to", query.window.stop)] ++
          query.cursor.elim [] fun cursor => [("cursor", cursor)]) ∧
      (endpoint.query = none →
        (∀ c ∈ text.toList, Percent.inQuery true c = true) ∧
        (query.cursor = none → ∀ pair ∈ Form.decode text.toList, pair.1 ≠ "cursor") ∧
        ∃ read, Service.Query.decode text = .ok read ∧
          read.limit.map UInt64.toNat = some query.limit.val ∧
          read.timeFrom = some query.window.start ∧ read.timeTo = some query.window.stop ∧
          read.cursor = query.cursor) := by
  rcases decode_query_url query endpoint with ⟨text, hurl, hpairs⟩
  have hown : query.pairs = [("limit", toString query.limit.val),
      ("time_from", query.window.start), ("time_to", query.window.stop)] ++
        query.cursor.elim [] fun cursor => [("cursor", cursor)] := by
    rw [pairs]
    cases query.cursor with
    | none => rfl
    | some cursor => rfl
  refine ⟨text, hurl, ?_, ?_, fun hquery => ?_⟩
  · refine ⟨endpoint.scheme ++ ":" ++ Url.hierarchy endpoint.authority endpoint.path,
      Url.delimited "#" endpoint.fragment, rfl, ?_⟩
    rw [hurl]
    simp only [Url.text, Url.withQuery, Url.delimited, String.append_assoc]
  · rw [hpairs, hown]
  · -- Without a query of its own, the endpoint leaves the pairs to the request.
    have htext : text = query.added := by
      have hsame := hurl.symm.trans (query_url_of_none query endpoint hquery)
      exact Option.some.inj (congrArg Url.query hsame)
    subst htext
    refine ⟨fun c hc => ?_, fun hcursor pair hpair => ?_, ?_⟩
    · rw [added, String.toList_ofList] at hc
      exact Form.inQuery_of_mem_encode query.pairs c hc
    · rw [decode_added, hown, hcursor, Option.elim_none, List.append_nil] at hpair
      have hnames : pair.1 ∈ ["limit", "time_from", "time_to"] := List.mem_map_of_mem hpair
      exact fun hname => absurd (hname ▸ hnames) (by decide)
    · refine ⟨Service.Query.ofPage query, Service.Query.decode_pairs query, ?_, rfl, rfl, rfl⟩
      have hlimit : query.limit.val < 0x10000000000000000 :=
        Nat.lt_trans query.limit.lt (by decide)
      simp only [Service.Query.ofPage, Option.map_some, UInt64.toNat_ofNat_of_lt' hlimit]

/-- Reserved characters of every kind, in the window and in the cursor. -/
theorem decode_url_reserved :
    let query : Query := ⟨⟨7, by decide, by decide⟩, ⟨"a=1&limit=2", "50% + 1"⟩, some "&=+%20é\n#?"⟩
    ∃ text read, (query.url Sweep.localConfig.eventsUrl).query = some text ∧
      Service.Query.decode text = .ok read ∧ read.limit.map UInt64.toNat = some 7 ∧
      read.timeFrom = some "a=1&limit=2" ∧ read.timeTo = some "50% + 1" ∧
      read.cursor = some "&=+%20é\n#?" := by
  intro query
  rcases decode_url query Sweep.localConfig.eventsUrl with ⟨text, hurl, -, -, hnone⟩
  rcases hnone rfl with ⟨-, -, read, hread, hlimit, hfrom, hto, hcursor⟩
  exact ⟨text, read, congrArg Url.query hurl, hread, hlimit, hfrom, hto, hcursor⟩

end Query

end Page

end PageSweep
