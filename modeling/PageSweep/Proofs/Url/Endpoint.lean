import PageSweep.Proofs.Page.Query
import PageSweep.Proofs.Sweep.Unrolled
import PageSweep.Proofs.Url.Host
import PageSweep.Proofs.Url.Path

/-!
# The Events Endpoint

The endpoint of a server is derived from the base URL as text: the path is written, its
slashes at the end are dropped, a path is appended, and the result is read again. Reading
again could change it, by resolving dots or encoding characters once more. It does not,
because a base URL that was read has a path of clean segments.

So the endpoint depends on three things only: the scheme, the authority, and the path up
to the slashes at its end. All requests of a sweep go to it, with a query that holds
nothing but what the sweep asks for.

## Theorems

* `parts_of_readBaseUrl`: What a base URL that is accepted consists of.
* `path_eventsUrlOf`: The path of the endpoint.
* `eventsUrlOf_eq_iff`: When two base URLs have one endpoint.
* `eventsUrl_derived`: The endpoint and the requests of every configuration.
-/

namespace PageSweep

namespace Url

section Accepted

open Options (bind_eq_ok_iff)

open Reader

variable (idna : Idna)

theorem scheme_fileAuthority (text : List Char) (url : Url)
    (h : fileAuthority idna text = .ok url) : url.scheme = "file" := by
  unfold fileAuthority at h
  dsimp only at h
  by_cases hdrive : Path.isDrive (text.takeWhile fun c => !endsAuthority true c) = true
  · rw [if_pos hdrive] at h
    cases h
    rfl
  · rw [if_neg hdrive, bind_eq_ok_iff] at h
    rcases h with ⟨host, -, h⟩
    cases host with
    | none =>
        cases h
        rfl
    | some host =>
        cases h
        rfl

theorem scheme_file (text : List Char) (url : Url) (h : file idna text = .ok url) :
    url.scheme = "file" := by
  unfold file at h
  split at h
  · split at h
    · exact scheme_fileAuthority idna _ _ h
    · cases h
      rfl
  · cases h
    rfl

theorem scheme_general (scheme : String) (text : List Char) (url : Url)
    (h : general idna scheme text = .ok url) : url.scheme = scheme := by
  unfold general at h
  split at h
  · rw [bind_eq_ok_iff] at h
    rcases h with ⟨⟨authority, after⟩, -, h⟩
    cases h
    rfl
  · cases h
    rfl
  · cases h
    rfl

/-- The path after an authority is read from some text, the empty one if there is none. -/
theorem exists_pathAfter (text : List Char) :
    ∃ spelling, pathAfter true text = Path.read true false spelling := by
  unfold pathAfter
  split
  · exact ⟨[], rfl⟩
  · exact ⟨_, rfl⟩

theorem parts_connecting (scheme : String) (text : List Char) (url : Url)
    (hscheme : connects scheme = true) (h : connecting idna scheme text = .ok url) :
    url.scheme = scheme ∧ (∃ a, url.authority = some a ∧ a.host.Proper) ∧
      ∃ spelling, url.path = Path.read true false spelling := by
  unfold connecting at h
  rw [bind_eq_ok_iff] at h
  rcases h with ⟨⟨a, rest⟩, hread, h⟩
  cases h
  rcases exists_pathAfter rest with ⟨spelling, hpath⟩
  exact ⟨rfl, ⟨a, rfl, proper_of_authority idna scheme _ rest a hscheme hread⟩, spelling, hpath⟩

theorem connects_of_isWeb (url : Url) (h : url.isWeb = true) : connects url.scheme = true := by
  rw [isWeb, Bool.or_eq_true, decide_eq_true_eq, decide_eq_true_eq] at h
  rcases h with h | h
  · rw [h]
    decide
  · rw [h]
    decide

/-- A base URL that is accepted has a host to connect to, and a path that was read. -/
theorem parts_of_readBaseUrl (text : String) (base : Url)
    (h : Config.readBaseUrl idna text = .ok base) :
    base.isWeb = true ∧ (∃ a, base.authority = some a ∧ a.host.Proper) ∧
      ∃ list, base.path = .segments list ∧ Path.AllClean list := by
  rcases (Options.readBaseUrl_eq_ok_iff idna text base).mp h with ⟨hread, hweb⟩
  have hconnects := connects_of_isWeb base hweb
  unfold read at hread
  split at hread
  · cases hread
  · rename_i scheme rest _
    -- A file has no host to connect to, and neither has a scheme without rules of its own.
    by_cases hfile : scheme = "file"
    · rw [if_pos hfile] at hread
      rw [scheme_file idna rest base hread] at hconnects
      exact absurd hconnects (by decide)
    · rw [if_neg hfile] at hread
      by_cases hscheme : connects scheme = true
      · rw [if_pos hscheme] at hread
        rcases parts_connecting idna scheme rest base hscheme hread
          with ⟨-, hauthority, spelling, hpath⟩
        exact ⟨hweb, hauthority, _, hpath, Path.clean_allSegments spelling⟩
      · rw [if_neg hscheme] at hread
        rw [scheme_general idna scheme rest base hread] at hconnects
        exact absurd hconnects hscheme

end Accepted

section Derivation

open Config (trimSlashes eventsPath eventsUrlOf)

variable (idna : Idna)

/-- The segments below every base path. -/
def eventsSegments : List String := ["disputes", "events"]

theorem clean_eventsSegments : Path.AllClean eventsSegments := by
  intro segment hmem
  simp only [eventsSegments, List.mem_cons, List.not_mem_nil, or_false] at hmem
  have hwhole : ∀ text : List Char, text.all (fun c => !Path.isSeparator true c) = true →
      ∀ c ∈ text, Path.isSeparator true c = false := by
    intro text hall c hc
    exact Bool.not_eq_eq_eq_not.mp (List.all_eq_true.mp hall c hc)
  rcases hmem with rfl | rfl
  · exact ⟨List.all_eq_true.mp (by decide), hwhole _ (by decide), by decide, by decide⟩
  · exact ⟨List.all_eq_true.mp (by decide), hwhole _ (by decide), by decide, by decide⟩

theorem spelled_eventsSegments : Path.spelled eventsSegments = eventsPath.toList := by
  decide

/-- Appending a path of clean segments to what is left of a path. -/
theorem read_append (list extension : List String) (hlist : Path.AllClean list)
    (hextension : Path.AllClean extension) (hne : extension ≠ []) :
    Path.read true false ((trimSlashes (Path.spelled list) ++ Path.spelled extension).drop 1)
      = .segments (Path.trimmed list ++ extension) := by
  have hclean : Path.AllClean (Path.trimmed list ++ extension) := by
    intro segment hmem
    rcases List.mem_append.mp hmem with h | h
    · exact hlist segment (Path.mem_trimmed list segment h)
    · exact hextension segment h
  have hread : Path.allSegments true false ((Path.spelled (Path.trimmed list ++ extension)).drop 1)
      = Path.trimmed list ++ extension := by
    cases hsegments : Path.trimmed list ++ extension with
    | nil => exact absurd (List.append_eq_nil_iff.mp hsegments).2 hne
    | cons first rest =>
        rw [hsegments] at hclean
        exact Path.allSegments_spelled first rest hclean
  rw [Path.trimSlashes_spelled list hlist, ← Path.spelled_append, Path.read, hread]
  rfl

/-- The endpoint of a base URL: reading the path again leaves it as it was written. -/
theorem eventsUrlOf_eq (text : String) (base : Url) (h : Config.readBaseUrl idna text = .ok base) :
    (eventsUrlOf base).scheme = base.scheme ∧ (eventsUrlOf base).authority = base.authority ∧
      (eventsUrlOf base).query = none ∧ (eventsUrlOf base).fragment = none ∧
      (eventsUrlOf base).path.text.toList
        = trimSlashes base.path.text.toList ++ eventsPath.toList := by
  rcases parts_of_readBaseUrl idna text base h with ⟨hweb, -, list, hpath, hclean⟩
  refine ⟨rfl, rfl, rfl, rfl, ?_⟩
  have hread := read_append list eventsSegments hclean clean_eventsSegments (List.cons_ne_nil _ _)
  have hwritten : base.path.text.toList = Path.spelled list := by
    rw [hpath, Path.toList_text_segments]
  have hendpoint : (eventsUrlOf base).path = Path.read (connects base.scheme) false
      ((trimSlashes base.path.text.toList ++ eventsPath.toList).drop 1) := rfl
  rw [hendpoint, connects_of_isWeb base hweb, hwritten, ← spelled_eventsSegments, hread,
    Path.toList_text_segments, Path.spelled_append, Path.trimSlashes_spelled list hclean]

/-- Two texts have the same left of them if they differ in slashes at their ends only. -/
theorem trimSlashes_eq_iff (a b : List Char) :
    trimSlashes a = trimSlashes b ↔ ∃ front m n,
      a = front ++ List.replicate m '/' ∧ b = front ++ List.replicate n '/' := by
  constructor
  · intro h
    rcases Path.exists_slashes a with ⟨m, ha, -⟩
    rcases Path.exists_slashes b with ⟨n, hb, -⟩
    rw [← h] at hb
    exact ⟨trimSlashes a, m, n, ha, hb⟩
  · rintro ⟨front, m, n, rfl, rfl⟩
    rw [Path.trimSlashes_append_slashes, Path.trimSlashes_append_slashes]

/-- The endpoint depends on the scheme, the authority and the path up to the slashes at its
end, and tells all three. -/
theorem eventsUrlOf_eq_iff (text spelling : String) (base other : Url)
    (hbase : Config.readBaseUrl idna text = .ok base)
    (hother : Config.readBaseUrl idna spelling = .ok other) :
    eventsUrlOf other = eventsUrlOf base ↔
      other.scheme = base.scheme ∧ other.authority = base.authority ∧
        trimSlashes other.path.text.toList = trimSlashes base.path.text.toList := by
  rcases eventsUrlOf_eq idna text base hbase with ⟨-, -, -, -, hpath⟩
  rcases eventsUrlOf_eq idna spelling other hother with ⟨-, -, -, -, hothers⟩
  constructor
  · intro h
    have hsame := congrArg (fun url : Url => url.path.text.toList) h
    simp only [hpath, hothers] at hsame
    have hscheme : (eventsUrlOf other).scheme = (eventsUrlOf base).scheme := by rw [h]
    have hauthority : (eventsUrlOf other).authority = (eventsUrlOf base).authority := by rw [h]
    exact ⟨hscheme, hauthority, List.append_cancel_right hsame⟩
  · rintro ⟨hscheme, hauthority, htrimmed⟩
    simp only [eventsUrlOf, withPath, withQuery, withoutFragment, hscheme, hauthority, htrimmed]

end Derivation

section Requests

variable {σ : Type} (serve : σ → Url → Exchange × σ) (config : Config) (window : Window)

/-- A request of a sweep goes to the endpoint and asks for a page. -/
theorem request_eq (p : Sweep.Progress) :
    p.request config window = config.eventsUrl.withQuery (some (String.ofList (Form.encode
      ([("limit", toString config.limit.val), ("time_from", window.start),
        ("time_to", window.stop)] ++ (p.cursor.map ("cursor", ·)).toList)))) := by
  rw [Sweep.Progress.request, Sweep.Progress.query_eq, Sweep.url_eventsUrl]
  rfl

/-- Every visit of a sweep is at such a request. -/
theorem exists_request_of_mem_visits (check : String) (server : σ) (visit : Sweep.Visit)
    (hvisit : visit ∈ (Sweep.run serve check config window server).visits) :
    ∃ p : Sweep.Progress, visit.url = p.request config window := by
  rcases Sweep.exists_run_eq serve check config window server with ⟨n, -, -, hrun⟩
  rw [hrun] at hvisit
  rcases List.mem_map.mp hvisit with ⟨i, -, rfl⟩
  exact ⟨_, rfl⟩

end Requests

end Url

namespace Config

theorem ofBaseUrl_eq_ok (idna : Url.Idna) (text : String) (made : Config)
    (h : ofBaseUrl idna text = .ok made) : readBaseUrl idna text = .ok made.baseUrl := by
  unfold ofBaseUrl at h
  rw [Options.bind_eq_ok_iff] at h
  rcases h with ⟨base, hread, h⟩
  cases h
  exact hread

/-- For every base URL that is accepted, however names outside ASCII are mapped and whatever
the other options are: the base URL has a host to connect to. The endpoint has its scheme
and its authority, no query and no fragment, and its path without the slashes at the end,
followed by the path of the events. Other base URLs have the same endpoint exactly if they
differ in those slashes, the query or the fragment only. Every request of every sweep goes
to the endpoint, with a query of the page size, the two ends of the window and possibly a
cursor. -/
theorem eventsUrl_derived (idna : Url.Idna) (text : String) (made config : Config)
    (h : ofBaseUrl idna text = .ok made) (hbase : config.baseUrl = made.baseUrl) :
    (config.baseUrl.scheme = "http" ∨ config.baseUrl.scheme = "https") ∧
      (∃ a, config.baseUrl.authority = some a ∧ a.host.Proper) ∧
      config.eventsUrl.scheme = config.baseUrl.scheme ∧
      config.eventsUrl.authority = config.baseUrl.authority ∧
      config.eventsUrl.query = none ∧ config.eventsUrl.fragment = none ∧
      (∃ front n, config.baseUrl.path.text.toList = front ++ List.replicate n '/' ∧
        front.getLast? ≠ some '/' ∧
        config.eventsUrl.path.text.toList = front ++ "/disputes/events".toList) ∧
      (∀ spelling other, ofBaseUrl idna spelling = .ok other →
        (other.eventsUrl = config.eventsUrl ↔
          other.baseUrl.scheme = config.baseUrl.scheme ∧
            other.baseUrl.authority = config.baseUrl.authority ∧
            ∃ front m n, other.baseUrl.path.text.toList = front ++ List.replicate m '/' ∧
              config.baseUrl.path.text.toList = front ++ List.replicate n '/')) ∧
      ∀ (σ : Type) (serve : σ → Url → Exchange × σ) (check : String) (window : Window)
        (server : σ), ∀ visit ∈ (Sweep.run serve check config window server).visits,
          ∃ query, visit.url = { config.eventsUrl with query := some query } ∧
            ∃ cursor, Form.decode query.toList
              = [("limit", toString config.limit.val), ("time_from", window.start),
                ("time_to", window.stop)] ++ (Option.map ("cursor", ·) cursor).toList := by
  have hread : readBaseUrl idna text = .ok config.baseUrl := by
    rw [hbase]
    exact ofBaseUrl_eq_ok idna text made h
  rcases Url.parts_of_readBaseUrl idna text _ hread with ⟨hweb, hauthority, -⟩
  rcases Url.eventsUrlOf_eq idna text _ hread with ⟨hscheme, hsame, hquery, hfragment, hpath⟩
  rw [Url.isWeb, Bool.or_eq_true, decide_eq_true_eq, decide_eq_true_eq] at hweb
  -- What is left are the path, the other base URLs and the requests.
  refine ⟨hweb, hauthority, hscheme, hsame, hquery, hfragment, ?_, ?_, ?_⟩
  · rcases Url.Path.exists_slashes config.baseUrl.path.text.toList with ⟨n, hslashes, hlast⟩
    exact ⟨_, n, hslashes, hlast, hpath⟩
  · intro spelling other hother
    rw [← Url.trimSlashes_eq_iff]
    exact Url.eventsUrlOf_eq_iff idna text spelling _ _ hread
      (ofBaseUrl_eq_ok idna spelling other hother)
  · intro σ serve check window server visit hvisit
    rcases Url.exists_request_of_mem_visits serve config window check server visit hvisit
      with ⟨p, hurl⟩
    rw [Url.request_eq] at hurl
    refine ⟨_, hurl, p.cursor, ?_⟩
    rw [String.toList_ofList, Form.decode_encode]

/-- A mapping that knows one name. -/
def bookshop : Url.Idna where
  form? := fun name => if name = "Bücher.example" then some "xn--bcher-kva.example" else none
  isForm := by
    intro name form h
    rw [Option.ite_none_right_eq_some, Option.some.injEq] at h
    rw [← h.2]
    decide +kernel

/-- A name outside ASCII, partly encoded, and a path with dots, an encoded dot, an empty
segment, a blank and a backslash. -/
def winding : String := "http://Me@B%C3%BCcher.example:8080/v1/./x/..//a b\\%2E/?debug=1#top"

theorem eventsUrl_derived_winding :
    ∃ made, ofBaseUrl bookshop winding = .ok made ∧
      made.eventsUrl.text = "http://Me@xn--bcher-kva.example:8080/v1//a%20b/disputes/events" ∧
      made.eventsUrl.authority = made.baseUrl.authority ∧
      made.eventsUrl.query = none ∧ made.eventsUrl.fragment = none ∧
      ∃ front n, made.baseUrl.path.text.toList = front ++ List.replicate n '/' ∧
        made.eventsUrl.path.text.toList = front ++ "/disputes/events".toList := by
  have htexts : (ofBaseUrl bookshop winding).toOption.map (fun made => made.eventsUrl.text)
      = some "http://Me@xn--bcher-kva.example:8080/v1//a%20b/disputes/events" := by decide +kernel
  cases hmade : ofBaseUrl bookshop winding with
  | error fault =>
      rw [hmade] at htexts
      exact absurd htexts (by simp only [Except.toOption, Option.map_none, reduceCtorEq,
        not_false_eq_true])
  | ok made =>
      rw [hmade] at htexts
      rcases eventsUrl_derived bookshop winding made made hmade rfl with
        ⟨-, -, -, hauthority, hquery, hfragment, ⟨front, n, hslashes, -, hpath⟩, -⟩
      exact ⟨made, rfl, Option.some.inj htexts, hauthority, hquery, hfragment, front, n, hslashes,
        hpath⟩

end Config

end PageSweep
