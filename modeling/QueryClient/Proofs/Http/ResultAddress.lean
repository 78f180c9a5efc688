import Mathlib
import QueryClient.Http.Transport
import QueryClient.Proofs.Tagged.RoundTrip
import QueryClient.Proofs.Url.Address

/-!
# Where a result is fetched

A client fetches a result at the service that is configured, whatever host a handle names: of the
handle only the text behind its last slash is put below the path of all results. What is requested
there follows from that text (`resultUrl_address`), and it is one segment of its own only as long as
the text has no backslash and is no dot segment.
-/

namespace QueryClient

open Url

/-- An address at the service that is configured, without credentials. -/
structure Url.IsAt (u : Url) (config : ClientConfig) : Prop where
  scheme : u.scheme = config.scheme
  user : u.user = []
  password : u.password = []
  host : Host.read? config.host.toList = some u.host
  port : u.port.getD (defaultPort config.scheme) = config.port

theorem ClientConfig.scheme_eq (c : ClientConfig) : c.scheme = "http" ∨ c.scheme = "https" := by
  rw [ClientConfig.scheme]
  split
  · exact .inr rfl
  · exact .inl rfl

namespace HttpTransport

/-- The segments of the path of all results. -/
def resultPath : List (List Char) := ["query".toList, "service".toList, "result".toList]

/-- What the end of a handle comes to as a segment: blanks and control characters at its end are
dropped, tabs and line ends throughout, and a query and a fragment are no part of it. -/
def segmentOf (tail : List Char) : List Char := beforeMarks (stripEnd tail)

/-! ## The address of all results -/

theorem isKept_below : ∀ c ∈ "query/service/resul".toList ++ ['t'], isKept c = true := by
  have hall : ("query/service/resul".toList ++ ['t']).all isKept = true := rfl
  exact List.all_eq_true.mp hall

theorem readsAs_of_endpoint {config : ClientConfig} {u : Url}
    (hplain : Host.IsPlain config.host.toList)
    (h : endpoint config "/query/service/result" = .ok u) :
    u.ReadsAs config.scheme (config.host.toList ++ portText (some config.port))
      "/query/service/result".toList := by
  rw [endpoint] at h
  split at h
  · next url hread =>
    obtain rfl := Except.ok.inj h
    have htext : (config.scheme ++ "://" ++ (config.host ++ ":" ++ toString config.port) ++
        "/query/service/result").toList =
        written config.scheme (config.host.toList ++ portText (some config.port))
          ("query/service/resul".toList ++ 't' :: []) := by
      simp [written, portText, Text.natText]
    have hauthority : IsAuthority (config.host.toList ++ portText (some config.port)) :=
      isAuthority_append hplain.undivided (by simp [portText])
    exact readsAs_of_read? config.scheme_eq htext hauthority isKept_below rfl hread
  · cases h

/-- The address of all results at the service that is configured. -/
structure IsResultEndpoint (config : ClientConfig) (u : Url) : Prop extends u.IsAt config where
  path : u.path = resultPath
  query : u.query = none
  fragment : u.fragment = none
  again : readPort? config.scheme ((portText u.port).drop 1) = some u.port

theorem isResultEndpoint_of_endpoint {config : ClientConfig} {u : Url}
    (hplain : Host.IsPlain config.host.toList)
    (h : endpoint config "/query/service/result" = .ok u) : IsResultEndpoint config u := by
  have reads := readsAs_of_endpoint hplain h
  have hspan := spanHost_of_isEnclosed (isEnclosed_of_isPlain hplain reads.host reads.port)
    (some config.port)
  have hhost := reads.host
  have hport := reads.port
  rw [hspan] at hhost hport
  have hread : u.port.getD (defaultPort config.scheme) = config.port ∧ _ := readPort?_natText hport
  have hmarks := reads.unmarked (by decide) (by decide)
  exact {
    scheme := reads.scheme
    user := reads.user
    password := reads.password
    host := hhost
    port := hread.1
    path := reads.path.trans (by decide)
    query := hmarks.1
    fragment := hmarks.2
    again := hread.2 }

theorem IsResultEndpoint.text {config : ClientConfig} {u : Url} (h : IsResultEndpoint config u) :
    u.text.toList = written config.scheme (u.host.text ++ portText u.port)
      "query/service/result".toList := by
  simp [Url.text, written, userText, target, portText, h.scheme, h.user, h.password, h.path,
    h.query, h.fragment, resultPath]

theorem toList_withoutSlashes {s : String} {front : List Char} {last : Char}
    (h : s.toList = front ++ [last]) (hlast : last ≠ '/') :
    (withoutSlashes s).toList = front ++ [last] := by
  rw [withoutSlashes, String.toList_ofList, h, List.reverse_append, List.reverse_singleton,
    List.singleton_append, List.dropWhile_cons_of_neg (by simpa using hlast), List.reverse_cons,
    List.reverse_reverse]

/-- Results are fetched below the address of all of them. -/
theorem exists_endpoint_of_create {config : ClientConfig} {t : HttpTransport}
    (hplain : Host.IsPlain config.host.toList) (h : create config = .ok t) :
    ∃ u, IsResultEndpoint config u ∧ t.resultEndpoint.toList =
      written config.scheme (u.host.text ++ portText u.port) "query/service/result".toList := by
  unfold create at h
  obtain ⟨query, -, h⟩ := Tagged.bind_eq_ok h
  obtain ⟨result, hresult, h⟩ := Tagged.bind_eq_ok h
  obtain ⟨active, -, h⟩ := Tagged.bind_eq_ok h
  obtain rfl := Except.ok.inj h
  have hendpoint := isResultEndpoint_of_endpoint hplain hresult
  have htext : written config.scheme (result.host.text ++ portText result.port)
      "query/service/result".toList =
      written config.scheme (result.host.text ++ portText result.port)
        "query/service/resul".toList ++ ['t'] := by
    simp [written]
  refine ⟨result, hendpoint, ?_⟩
  rw [htext]
  exact toList_withoutSlashes (hendpoint.text.trans htext) (by decide)

/-! ## Handles -/

/-- The end of a handle is the text behind its last slash. -/
theorem handleSuffix?_eq_some {handle suffix : List Char} (h : handleSuffix? handle = some suffix) :
    ∃ front tail, handle = front ++ '/' :: tail ∧ '/' ∉ tail ∧ suffix = '/' :: tail := by
  rw [handleSuffix?] at h
  split at h
  · next hmem =>
    obtain ⟨tail, front, hreverse, htail⟩ :=
      List.eq_append_cons_of_mem (List.mem_reverse.mpr (List.contains_iff_mem.mp hmem))
    refine ⟨front.reverse, tail.reverse, ?_, fun hmem => htail (List.mem_reverse.mp hmem), ?_⟩
    · rw [← List.reverse_reverse handle, hreverse]
      simp
    · have hspan : handle.reverse.takeWhile (· ≠ '/') = tail := by
        have hall : ∀ c ∈ tail, (decide (c ≠ '/')) = true := by
          intro c hc
          refine decide_eq_true ?_
          rintro rfl
          exact htail hc
        rw [hreverse, List.takeWhile_append_of_pos hall, List.takeWhile_cons_of_neg (by simp),
          List.append_nil]
      rw [← Option.some.inj h, hspan]
  · cases h

/-- What the address of a result comes from. -/
theorem resultUrl_eq_ok {t : HttpTransport} {r : QueryResponse} {u : Url}
    (h : t.resultUrl r = .ok u) :
    ∃ handle front tail, r.handle = some handle ∧ handle.toList = front ++ '/' :: tail ∧
      '/' ∉ tail ∧ Url.read? (t.resultEndpoint ++ String.ofList ('/' :: tail)) = some u := by
  unfold resultUrl at h
  split at h
  · cases h
  · next handle hhandle =>
    dsimp only at h
    split at h
    · next url hurl =>
      obtain rfl := Except.ok.inj h
      obtain ⟨suffix, hsuffix, hread⟩ := Option.bind_eq_some_iff.mp hurl
      obtain ⟨front, tail, heq, htail, rfl⟩ := handleSuffix?_eq_some hsuffix
      exact ⟨handle, front, tail, hhandle, heq, htail, hread⟩
    · cases h

theorem isPlain_resultPath : ∀ segment ∈ resultPath, (∀ c ∈ segment, isSlash c = false) ∧
    isDoubleDot segment = false ∧ isSingleDot segment = false := by
  have hall : resultPath.all (fun segment => segment.all (fun c => !isSlash c) &&
      !isDoubleDot segment && !isSingleDot segment) = true := by decide
  intro segment hmem
  have hsegment := List.all_eq_true.mp hall segment hmem
  simp only [Bool.and_eq_true, Bool.not_eq_true', List.all_eq_true] at hsegment
  exact ⟨hsegment.1.1, hsegment.1.2, hsegment.2⟩

/-- The path that is requested: the segments of the handle's end below the path of all results. -/
theorem readPath_below (cs : List Char) :
    readPath (beforeMarks ("/query/service/result/".toList ++ cs)) =
      resolveDots resultPath (((beforeMarks cs).splitOnP isSlash).map (encode pathSet)) := by
  have hfront : "/query/service/result/".toList =
      '/' :: resultPath.flatMap (fun segment => segment ++ ['/']) := rfl
  have hencode : resultPath.map (encode pathSet) = resultPath := by decide
  have hslash : isSlash '/' = true := rfl
  rw [beforeMarks_append (by decide) (by decide), hfront, List.cons_append, readPath]
  simp only [hslash, if_true]
  rw [splitOnP_flatMap fun segment hmem => (isPlain_resultPath segment hmem).1, List.map_append,
    hencode, resolveDots_append fun segment hmem => (isPlain_resultPath segment hmem).2,
    List.nil_append]

/-- A dot segment is not left as it is. -/
theorem not_dot_of_resolveDots {segment : List Char}
    (h : resolveDots resultPath [segment] = resultPath ++ [segment]) :
    isDoubleDot segment = false ∧ isSingleDot segment = false := by
  rw [resolveDots] at h
  split at h
  · have hpath : dropSegment resultPath ++ [[]] = resultPath ++ [segment] := h
    have hlength := congrArg List.length hpath
    simp only [List.length_append, List.length_singleton] at hlength
    exact absurd hlength (by decide)
  · next hdouble =>
    split at h
    · next hsingle =>
      have hnil : segment = [] := by simpa [resolveDots] using h
      rw [hnil] at hsingle
      exact absurd hsingle (by decide)
    · next hsingle => exact ⟨Bool.eq_false_iff.mpr hdouble, Bool.eq_false_iff.mpr hsingle⟩

/-- Below the path of all results a text is one segment exactly if nothing in it divides it and it
is no dot segment. -/
theorem resolveDots_resultPath_iff {cs : List Char} (h : '/' ∉ cs) :
    resolveDots resultPath ((cs.splitOnP isSlash).map (encode pathSet)) =
        resultPath ++ [encode pathSet cs] ↔
      '\\' ∉ cs ∧ isDoubleDot (encode pathSet cs) = false ∧
        isSingleDot (encode pathSet cs) = false := by
  have hsingle (hbackslash : '\\' ∉ cs) : cs.splitOnP isSlash = [cs] := by
    refine List.splitOnP_eq_singleton fun c hc => ?_
    have hne : c ≠ '/' ∧ c ≠ '\\' :=
      ⟨fun heq => h (heq ▸ hc), fun heq => hbackslash (heq ▸ hc)⟩
    simp [isSlash, hne]
  constructor
  · intro hpath
    have hbackslash : '\\' ∉ cs := by
      intro hmem
      -- the backslash stands in the last segment, and no segment that is left has one
      have hlast : encode pathSet cs ∈ resolveDots resultPath
          ((cs.splitOnP isSlash).map (encode pathSet)) := by
        rw [hpath]
        exact List.mem_append_right _ List.mem_cons_self
      have hin : '\\' ∈ encode pathSet cs := backslash_mem_encode_iff.mpr hmem
      obtain hmem | hnil | hmem := mem_resolveDots hlast
      · have hall := (isPlain_resultPath _ hmem).1 _ hin
        cases hall
      · rw [hnil] at hin
        cases hin
      · obtain ⟨piece, hpiece, heq⟩ := List.mem_map.mp hmem
        have hc := mem_of_mem_splitOnP hpiece (backslash_mem_encode_iff.mp (heq ▸ hin))
        cases hc.2
    rw [hsingle hbackslash, List.map_singleton] at hpath
    exact ⟨hbackslash, not_dot_of_resolveDots hpath⟩
  · rintro ⟨hbackslash, hdouble, hsingleDot⟩
    rw [hsingle hbackslash, List.map_singleton]
    simp [resolveDots, hdouble, hsingleDot]

theorem readsAs_of_resultUrl {config : ClientConfig} {t : HttpTransport} {r : QueryResponse}
    {u : Url} (hplain : Host.IsPlain config.host.toList) (hcreate : create config = .ok t)
    (hurl : t.resultUrl r = .ok u) :
    ∃ endpoint, IsResultEndpoint config endpoint ∧
    ∃ handle front tail, r.handle = some handle ∧ handle.toList = front ++ '/' :: tail ∧
      '/' ∉ tail ∧ u.ReadsAs config.scheme (endpoint.host.text ++ portText endpoint.port)
        ("/query/service/result/".toList ++ stripEnd tail) := by
  obtain ⟨endpoint, hendpoint, hresults⟩ := exists_endpoint_of_create hplain hcreate
  obtain ⟨handle, front, tail, hhandle, heq, htail, hread⟩ := resultUrl_eq_ok hurl
  refine ⟨endpoint, hendpoint, handle, front, tail, hhandle, heq, htail, ?_⟩
  have henclosed := (Host.isRead_of_read? hendpoint.host).isEnclosed
  have hauthority : IsAuthority (endpoint.host.text ++ portText endpoint.port) :=
    isAuthority_append henclosed.undivided
      (List.append_ne_nil_of_left_ne_nil henclosed.ne_nil _)
  have htext : (t.resultEndpoint ++ String.ofList ('/' :: tail)).toList =
      written config.scheme (endpoint.host.text ++ portText endpoint.port)
        ("query/service/result".toList ++ '/' :: tail) := by
    simp [hresults, written]
  have hkept : ∀ c ∈ "query/service/result".toList ++ ['/'], isKept c = true := by
    intro c hc
    obtain hc | hc := List.mem_append.mp hc
    · exact isKept_below c hc
    · rw [List.mem_singleton.mp hc]
      rfl
  exact readsAs_of_read? config.scheme_eq htext hauthority hkept rfl hread

theorem isAt_of_readsAs {config : ClientConfig} {endpoint u : Url} {below : List Char}
    (hendpoint : IsResultEndpoint config endpoint)
    (reads : u.ReadsAs config.scheme (endpoint.host.text ++ portText endpoint.port) below) :
    u.IsAt config := by
  have hisRead := Host.isRead_of_read? hendpoint.host
  have hhost := reads.host
  have hport := reads.port
  rw [spanHost_of_isEnclosed hisRead.isEnclosed] at hhost hport
  have hsame : u.host = endpoint.host := hisRead.eq_of_read?_text hhost
  have hsamePort : u.port = endpoint.port :=
    Option.some.inj (hport.symm.trans hendpoint.again)
  exact ⟨reads.scheme, reads.user, reads.password, hsame ▸ hendpoint.host,
    hsamePort ▸ hendpoint.port⟩

/-- **Where a result is fetched**: at the service that is configured, and below the path of all
results at the text behind the handle's last slash, once it is divided at its backslashes, encoded
and cleared of dot segments. It is one segment, and this text, exactly if it has no backslash and is
no dot segment. -/
theorem resultUrl_address {config : ClientConfig} {t : HttpTransport} {r : QueryResponse} {u : Url}
    (hplain : Host.IsPlain config.host.toList) (hcreate : create config = .ok t)
    (hurl : t.resultUrl r = .ok u) :
    u.IsAt config ∧
    (∀ q, t.fetchRequest r = .ok q → q.method = "GET" ∧ q.target = String.ofList u.target) ∧
    ∃ handle front tail, r.handle = some handle ∧ handle.toList = front ++ '/' :: tail ∧
      '/' ∉ tail ∧
      u.path = resolveDots resultPath (((segmentOf tail).splitOnP isSlash).map (encode pathSet)) ∧
      (u.path = resultPath ++ [encode pathSet (segmentOf tail)] ↔
        '\\' ∉ segmentOf tail ∧ isDoubleDot (encode pathSet (segmentOf tail)) = false ∧
          isSingleDot (encode pathSet (segmentOf tail)) = false) := by
  obtain ⟨endpoint, hendpoint, handle, front, tail, hhandle, heq, htail, reads⟩ :=
    readsAs_of_resultUrl hplain hcreate hurl
  have hpath := reads.path.trans (readPath_below (stripEnd tail))
  refine ⟨isAt_of_readsAs hendpoint reads, fun q hq => ?_, handle, front, tail, hhandle, heq, htail,
    hpath, ?_⟩
  · obtain ⟨url, hfetched, hq⟩ := Tagged.bind_eq_ok hq
    obtain rfl := Except.ok.inj (hurl.symm.trans hfetched)
    rw [request] at hq
    split at hq
    · cases hq
    · obtain rfl := Except.ok.inj hq
      exact ⟨rfl, rfl⟩
  · have hslash : '/' ∉ segmentOf tail := fun hmem =>
      htail (mem_of_mem_stripEnd (mem_of_mem_beforeMarks hmem))
    rw [hpath]
    exact resolveDots_resultPath_iff hslash

/-! ## The service on this machine -/

/-- An address at the service on this machine. -/
def standardUrl (path : List String) : Url where
  scheme := "http"
  user := []
  password := []
  host := .domain "localhost".toList
  port := some 19002
  path := path.map String.toList
  query := none
  fragment := none

/-- The transport to the service on this machine. -/
def standardTransport : HttpTransport where
  queryEndpoint := standardUrl ["query", "service"]
  resultEndpoint := "http://localhost:19002/query/service/result"
  activeRequestsEndpoint := standardUrl ["admin", "requests", "running"]
  user := none
  password := none
  maxWarnings := 10
  policy := .never
  closed := false

theorem create_standard : create .standard = .ok standardTransport := rfl

theorem isPlain_standard : Host.IsPlain ClientConfig.standard.host.toList := by
  have hall : "localhost".toList.all (fun c => decide (Domain.IsSent c)) = true := by decide
  refine (Host.isEnclosed_of_isSent (by decide) fun c hc => ?_).toIsPlain
  exact of_decide_eq_true (List.all_eq_true.mp hall c hc)

/-- A response with nothing but a handle. -/
def handing (handle : String) : QueryResponse := ⟨none, none, none, some handle, [], [], []⟩

/-- A response with a handle that names another host. -/
def elsewhere : QueryResponse := handing "http://elsewhere:19002/query/service/result/7-0"

/-- The host that a handle names is not asked. -/
theorem resultUrl_elsewhere :
    ∃ u, standardTransport.resultUrl elsewhere = .ok u ∧ u.IsAt .standard ∧
      u.path = resultPath ++ ["7-0".toList] := by
  have hurl : standardTransport.resultUrl elsewhere =
      .ok (standardUrl ["query", "service", "result", "7-0"]) := rfl
  exact ⟨_, hurl, (resultUrl_address isPlain_standard create_standard hurl).1, rfl⟩

/-- Backslashes lead out of the path of all results. -/
theorem resultUrl_astray :
    ∃ t u, Host.IsPlain ClientConfig.standard.host.toList ∧ create .standard = .ok t ∧
      t.resultUrl (handing "/query/service/result/..\\..\\..\\admin") = .ok u ∧
      u.path = ["admin".toList] ∧ ∀ segment, u.path ≠ resultPath ++ [segment] := by
  refine ⟨standardTransport, standardUrl ["admin"], isPlain_standard, create_standard, rfl, rfl, ?_⟩
  intro segment h
  exact absurd (congrArg List.length h) (by simp [standardUrl, resultPath])

end HttpTransport

end QueryClient
