import CbcExplorer.Cbc.Init
import CbcExplorer.Cbc.Types

set_option autoImplicit false

namespace CbcExplorer

theorem convertWSToHTTP_ws {rest : String} (host : rest ≠ "") :
    convertWSToHTTP ("ws://" ++ rest) = "http://" ++ rest := by
  have long : Go.len ("ws://" ++ rest) > 5 := by
    rw [Go.len_append]; exact Nat.lt_add_of_pos_right (Go.len_pos.mpr host)
  rw [convertWSToHTTP, if_pos ⟨long, Go.sliceTo_append "ws://" rest 5 rfl⟩,
    Go.sliceFrom_append "ws://" rest 5 rfl]

theorem convertWSToHTTP_wss {rest : String} (host : rest ≠ "") :
    convertWSToHTTP ("wss://" ++ rest) = "https://" ++ rest := by
  have long : Go.len ("wss://" ++ rest) > 6 := by
    rw [Go.len_append]; exact Nat.lt_add_of_pos_right (Go.len_pos.mpr host)
  have notWs : Go.sliceTo ("wss://" ++ rest) 5 ≠ "ws://" := by
    simp [Go.sliceTo, String.ext_iff]
  rw [convertWSToHTTP, if_neg (fun h => notWs h.2),
    if_pos ⟨long, Go.sliceTo_append "wss://" rest 6 rfl⟩, Go.sliceFrom_append "wss://" rest 6 rfl]

theorem convertWSToHTTP_of_unprefixed {e : String}
    (other : ∀ rest, rest ≠ "" → e ≠ "ws://" ++ rest ∧ e ≠ "wss://" ++ rest) :
    convertWSToHTTP e = e := by
  dsimp only [convertWSToHTTP]
  split_ifs with ws wss
  · obtain ⟨host, eq⟩ := Go.eq_append_sliceFrom ws.1 ws.2 rfl
    exact absurd eq (other _ host).1
  · obtain ⟨host, eq⟩ := Go.eq_append_sliceFrom wss.1 wss.2 rfl
    exact absurd eq (other _ host).2
  · rfl

theorem convertWSToHTTP_spec :
    (∀ rest, rest ≠ "" → convertWSToHTTP ("ws://" ++ rest) = "http://" ++ rest) ∧
      (∀ rest, rest ≠ "" → convertWSToHTTP ("wss://" ++ rest) = "https://" ++ rest) ∧
      ∀ e, (∀ rest, rest ≠ "" → e ≠ "ws://" ++ rest ∧ e ≠ "wss://" ++ rest) →
        convertWSToHTTP e = e :=
  ⟨fun _ => convertWSToHTTP_ws, fun _ => convertWSToHTTP_wss,
    fun _ => convertWSToHTTP_of_unprefixed⟩

theorem newCBCInitializer_agrees (scheme rest : String)
    (known : scheme = "ws://" ∨ scheme = "wss://" ∨ scheme = "http://" ∨ scheme = "https://")
    (host : rest ≠ "")
    (plain : Go.contains rest "ws://" = false ∧ Go.contains rest "wss://" = false) :
    (newCBCInitializer (scheme ++ rest)).httpURL = convertWSToHTTP (scheme ++ rest) := by
  have keepWs := Go.replace_of_contains_eq_false "http://" plain.1
  have keepWss := Go.replace_of_contains_eq_false "https://" plain.2
  -- a scheme without a `w` is passed over by both replacements
  have keepScheme (pre : String) (noW : 'w' ∉ pre.data) :
      Go.replace (Go.replace (pre ++ rest) "ws://" "http://") "wss://" "https://" =
        pre ++ rest := by
    rw [Go.replace_append_of_not_mem pre rest "ws://" "http://" 'w' rfl noW, keepWs,
      Go.replace_append_of_not_mem pre rest "wss://" "https://" 'w' rfl noW, keepWss]
  show Go.replace (Go.replace (scheme ++ rest) "ws://" "http://") "wss://" "https://" = _
  rcases known with rfl | rfl | rfl | rfl
  · rw [convertWSToHTTP_ws host, Go.replace_prefix,
      Go.replace_append_of_not_mem "http://" rest "wss://" "https://" 'w' rfl (by decide), keepWss]
  · have skipWs : Go.replace ("wss://" ++ rest) "ws://" "http://" = "wss://" ++ rest := by
      refine String.ext ?_
      show Go.replaceFirst "ws://".data "http://".data ('w' :: ("ss://".data ++ rest.data)) =
        'w' :: ("ss://".data ++ rest.data)
      rw [Go.replaceFirst_cons_of_not_prefix (by simp),
        Go.replaceFirst_append_of_not_mem "ws://".data "http://".data "ss://".data rest.data 'w'
          rfl (by decide)]
      exact congrArg ('w' :: "ss://".data ++ ·) (congrArg String.data keepWs)
    rw [convertWSToHTTP_wss host, skipWs, Go.replace_prefix]
  · rw [convertWSToHTTP_of_unprefixed (by simp [String.ext_iff]), keepScheme "http://" (by decide)]
  · rw [convertWSToHTTP_of_unprefixed (by simp [String.ext_iff]), keepScheme "https://" (by decide)]

theorem newCBCInitializer_agrees_on_local_node :
    (newCBCInitializer ("ws://" ++ "172.17.0.1:9933")).httpURL =
      convertWSToHTTP ("ws://" ++ "172.17.0.1:9933") :=
  newCBCInitializer_agrees "ws://" "172.17.0.1:9933" (.inl rfl) (by decide) ⟨by decide, by decide⟩

theorem newCBCInitializer_rewrites_inner_scheme :
    (newCBCInitializer "http://localhost:9933/ws://172.17.0.1:9944").httpURL =
        "http://localhost:9933/http://172.17.0.1:9944" ∧
      convertWSToHTTP "http://localhost:9933/ws://172.17.0.1:9944" =
        "http://localhost:9933/ws://172.17.0.1:9944" := by
  decide

end CbcExplorer
