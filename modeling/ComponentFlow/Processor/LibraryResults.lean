import ComponentFlow.Processor.ResultShape

/-!
# Results of library hooks

The shapes of the results of the hooks of libraries for remote data and for forms. Their order is
the order in which libraries document them, and it is the order of the properties in a diagram.
-/

namespace ComponentFlow.ResultShape

/-- Results of the SWR hooks. -/
def swr : List ResultShape :=
  [{ hook := "useSWR"
     properties := [("data", .input), ("error", .store), ("isLoading", .store),
       ("isValidating", .store), ("mutate", .process)] },
   { hook := "useSWRInfinite"
     properties := [("data", .input), ("error", .store), ("isLoading", .store),
       ("isValidating", .store), ("size", .store), ("setSize", .process), ("mutate", .process)] },
   { hook := "useSWRMutation", operation := .mutation
     properties := [("data", .input), ("error", .store), ("trigger", .process),
       ("isMutating", .store), ("reset", .process)] },
   { hook := "useSWRConfig", operation := .config
     properties := [("mutate", .process), ("cache", .store)] }]

/-- Results of the TanStack Query hooks. -/
def tanstackQuery : List ResultShape :=
  [{ hook := "useQuery"
     properties := [("data", .input), ("error", .store), ("isLoading", .store),
       ("isFetching", .store), ("isError", .store), ("isPending", .store), ("refetch", .process),
       ("status", .store)] },
   { hook := "useSuspenseQuery"
     properties := [("data", .input), ("error", .store), ("isFetching", .store),
       ("refetch", .process), ("status", .store)] },
   { hook := "useMutation", operation := .mutation
     properties := [("mutate", .process), ("mutateAsync", .process), ("data", .input),
       ("error", .store), ("isLoading", .store), ("isPending", .store), ("isError", .store),
       ("status", .store), ("reset", .process)] },
   { hook := "useInfiniteQuery"
     properties := [("data", .input), ("error", .store), ("isLoading", .store),
       ("isFetching", .store), ("isError", .store), ("hasNextPage", .store),
       ("isFetchingNextPage", .store), ("fetchNextPage", .process),
       ("fetchPreviousPage", .process), ("refetch", .process), ("status", .store)] }]

/-- Results of the Apollo Client hooks. -/
def apollo : List ResultShape :=
  [{ hook := "useQuery"
     properties := [("data", .input), ("loading", .store), ("error", .store),
       ("refetch", .process), ("fetchMore", .process), ("networkStatus", .store),
       ("called", .store)] },
   { hook := "useLazyQuery", positional := ["execute", "result"]
     properties := [("execute", .process), ("data", .input), ("loading", .store),
       ("error", .store), ("called", .store), ("refetch", .process)] },
   { hook := "useMutation", operation := .mutation, positional := ["mutate", "result"]
     properties := [("mutate", .process), ("data", .input), ("loading", .store),
       ("error", .store), ("called", .store), ("reset", .process)] },
   { hook := "useSubscription"
     properties := [("data", .input), ("loading", .store), ("error", .store)] }]

/-- The result of a generated query hook of RTK Query. -/
def rtkQuery : ResultShape :=
  { hook := "query"
    properties := [("data", .input), ("currentData", .input), ("error", .store),
      ("isLoading", .store), ("isFetching", .store), ("isError", .store), ("isSuccess", .store),
      ("refetch", .process), ("status", .store)] }

/-- The result of a generated mutation hook of RTK Query. -/
def rtkMutation : ResultShape :=
  { hook := "mutation", operation := .mutation, positional := ["trigger", "result"]
    properties := [("trigger", .process), ("data", .input), ("error", .store),
      ("isLoading", .store), ("isError", .store), ("isSuccess", .store), ("reset", .process),
      ("status", .store)] }

/-- The result of a query hook of tRPC. -/
def trpcQuery : ResultShape :=
  { hook := "useQuery"
    properties := [("data", .input), ("error", .store), ("isLoading", .store),
      ("isFetching", .store), ("refetch", .process)] }

/-- The result of a mutation hook of tRPC. -/
def trpcMutation : ResultShape :=
  { hook := "useMutation", operation := .mutation
    properties := [("mutate", .process), ("mutateAsync", .process), ("data", .input),
      ("error", .store), ("isLoading", .store), ("isPending", .store)] }

/-- Results of the hooks for forms. -/
def forms : List ResultShape :=
  [{ hook := "useForm", operation := .local
     properties := [("register", .process), ("handleSubmit", .process), ("setValue", .process),
       ("reset", .process), ("watch", .process), ("getValues", .process), ("trigger", .process),
       ("setError", .process), ("clearErrors", .process), ("formState", .store),
       ("control", .store)] },
   { hook := "useController", operation := .local
     properties := [("field", .store), ("fieldState", .store)] },
   { hook := "useWatch", operation := .local
     properties := [("value", .input)] },
   { hook := "useFormState", operation := .local
     properties := [("isDirty", .store), ("isValid", .store), ("errors", .store),
       ("isSubmitting", .store), ("isLoading", .store), ("isValidating", .store),
       ("touchedFields", .store), ("dirtyFields", .store)] },
   { hook := "useFieldArray", operation := .local
     properties := [("fields", .store), ("append", .process), ("prepend", .process),
       ("remove", .process), ("insert", .process), ("update", .process), ("move", .process),
       ("swap", .process), ("replace", .process)] }]

/-- The shape for a hook in a list of shapes. -/
def find? (shapes : List ResultShape) (hook : String) : Option ResultShape :=
  shapes.find? (·.hook == hook)

end ComponentFlow.ResultShape
