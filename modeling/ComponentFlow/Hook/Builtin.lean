import ComponentFlow.Component.Basic

/-!
# Known hooks

The hooks whose category is known from their name: the builtins of the frameworks, with the roles of
the values they return, and the hooks of libraries, whose roles are left to the processor of the
library.
-/

namespace ComponentFlow

/-- A hook known by name. `positionalRoles` are the roles of the values of a hook that returns a
tuple. A delegated hook belongs to a library with a processor of its own. -/
structure BuiltinHook where
  name : String
  category : String
  framework : Option String := none
  readOnly : Bool := false
  positionalRoles : List Role := []
  reducer : Bool := false
  delegated : Bool := false
  deriving Repr, DecidableEq, Inhabited

/-- The category of hooks that are not known. -/
def customCategory : String := "custom"

/-- Hooks that differ in their names only. -/
def BuiltinHook.family (shared : BuiltinHook) (names : List String) : List BuiltinHook :=
  names.map fun name => { shared with name }

/-- A hook of the given category and framework that is only known by these. -/
def BuiltinHook.plain (category framework : String) : BuiltinHook :=
  { name := "", category, framework := some framework }

/-- The builtins of React. -/
def reactHooks : List BuiltinHook :=
  let pair := [Role.data, Role.function]
  BuiltinHook.family { BuiltinHook.plain "state" "react" with positionalRoles := pair }
      ["useState", "useOptimistic", "useTransition"] ++
    BuiltinHook.family
      { BuiltinHook.plain "state" "react" with positionalRoles := pair ++ [Role.data] }
      ["useActionState"] ++
    BuiltinHook.family
      { BuiltinHook.plain "reducer" "react" with positionalRoles := pair, reducer := true }
      ["useReducer"] ++
    BuiltinHook.family { BuiltinHook.plain "context" "react" with readOnly := true }
      ["useContext", "use"] ++
    BuiltinHook.family { BuiltinHook.plain "ref" "react" with readOnly := true } ["useRef"] ++
    BuiltinHook.family (BuiltinHook.plain "effect" "react")
      ["useEffect", "useLayoutEffect", "useInsertionEffect", "useImperativeHandle",
       "useDebugValue"] ++
    BuiltinHook.family
      { BuiltinHook.plain "callback" "react" with positionalRoles := [Role.function] }
      ["useCallback"] ++
    BuiltinHook.family { BuiltinHook.plain "memo" "react" with readOnly := true }
      ["useMemo", "useDeferredValue", "useId", "useSyncExternalStore"]

/-- The composition functions of Vue. -/
def vueHooks : List BuiltinHook :=
  BuiltinHook.family { BuiltinHook.plain "state" "vue" with positionalRoles := [Role.data] }
      ["ref", "shallowRef", "reactive", "shallowReactive", "toRef", "customRef"] ++
    BuiltinHook.family { BuiltinHook.plain "computed" "vue" with readOnly := true }
      ["computed", "readonly"] ++
    BuiltinHook.family { BuiltinHook.plain "context" "vue" with readOnly := true }
      ["inject", "provide"] ++
    BuiltinHook.family (BuiltinHook.plain "effect" "vue")
      ["watch", "watchEffect", "watchPostEffect"] ++
    BuiltinHook.family (BuiltinHook.plain "lifecycle" "vue")
      ["onMounted", "onUnmounted", "onBeforeMount", "onBeforeUnmount", "onUpdated",
       "onBeforeUpdate", "onActivated", "onDeactivated", "nextTick"]

/-- The runes and stores of Svelte. -/
def svelteHooks : List BuiltinHook :=
  BuiltinHook.family { BuiltinHook.plain "state" "svelte" with positionalRoles := [Role.data] }
      ["$state", "$state.raw", "$bindable"] ++
    BuiltinHook.family { BuiltinHook.plain "computed" "svelte" with readOnly := true }
      ["$derived", "$derived.by", "derived"] ++
    BuiltinHook.family (BuiltinHook.plain "effect" "svelte")
      ["$effect", "$effect.pre", "$inspect"] ++
    BuiltinHook.family { BuiltinHook.plain "props" "svelte" with readOnly := true } ["$props"] ++
    BuiltinHook.family
      { BuiltinHook.plain "state-management" "svelte" with positionalRoles := [Role.data] }
      ["writable"] ++
    BuiltinHook.family { BuiltinHook.plain "state-management" "svelte" with readOnly := true }
      ["readable", "get"] ++
    BuiltinHook.family (BuiltinHook.plain "lifecycle" "svelte")
      ["onMount", "onDestroy", "beforeUpdate", "afterUpdate", "tick"]

/-- A hook of a library, of the given category. -/
def BuiltinHook.ofLibrary (category : String) : BuiltinHook :=
  { name := "", category, delegated := true }

/-- The hooks of libraries. -/
def libraryHooks : List BuiltinHook :=
  BuiltinHook.family (BuiltinHook.ofLibrary "data-fetching")
      ["useSWR", "useSWRMutation", "useSWRConfig", "useSWRInfinite", "useQuery", "useMutation",
       "useInfiniteQuery", "useSuspenseQuery", "useLazyQuery", "useSubscription",
       "useQueryClient"] ++
    BuiltinHook.family (BuiltinHook.ofLibrary "state-management")
      ["useAtom", "useAtomValue", "useSetAtom", "useLocalObservable", "useObserver",
       "storeToRefs"] ++
    BuiltinHook.family (BuiltinHook.ofLibrary "routing")
      ["useRouter", "usePathname", "useSearchParams", "useParams", "useNavigate", "useLocation",
       "useRouterState", "useSearch", "useRoute", "onBeforeRouteUpdate", "onBeforeRouteLeave",
       "goto", "beforeNavigate", "afterNavigate", "page", "navigating", "updated"] ++
    BuiltinHook.family (BuiltinHook.ofLibrary "form")
      ["useForm", "useController", "useWatch", "useFormState", "useFieldArray"]

/-- All known hooks. -/
def builtinHooks : List BuiltinHook :=
  reactHooks ++ vueHooks ++ svelteHooks ++ libraryHooks

/-- The known hook of a name. -/
def builtinHook? (name : String) : Option BuiltinHook :=
  builtinHooks.find? (·.name == name)

end ComponentFlow
