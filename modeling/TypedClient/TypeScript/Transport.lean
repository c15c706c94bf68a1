import TypedClient.TypeScript.Code

/-!
# Transports of the generated code

The part of the request file that depends on the library that sends requests.
-/

namespace TypedClient.TypeScript

/-- The library that sends the requests of the generated code. -/
inductive Transport where
  | fetch
  | xhr
  | node
  | axios
deriving DecidableEq, Repr

namespace Transport

/-- All transports. -/
def all : List Transport := [fetch, xhr, node, axios]

/-- The word for a transport. -/
def label : Transport → String
  | fetch => "fetch"
  | xhr => "xhr"
  | node => "node"
  | axios => "axios"

/-- The transport that a word stands for; the empty word stands for the first. -/
def ofLabel? (word : String) : Option Transport :=
  if word = "" then some fetch else all.find? (fun t => t.label = word)

/-- The imports of the request file. -/
def imports : Transport → String
  | fetch => ""
  | xhr => ""
  | node => code [
   "import « AbortController » from 'abort-controller';",
   "import FormData from 'form-data';",
   "import fetch, « Headers » from 'node-fetch';",
   "import type « RequestInit, Response » from 'node-fetch';"]
  | axios => code [
   "import axios from 'axios';",
   "import type « AxiosError, AxiosRequestConfig, AxiosResponse » from 'axios';",
   "import FormData from 'form-data';"]

/-- Sending a request with the standard fetch of browsers. -/
def fetchSending : String := code [
   "",
   "export const sendRequest = async (",
   "    config: OpenAPIConfig,",
   "    options: ApiRequestOptions,",
   "    url: string,",
   "    body: any,",
   "    headers: Record<string, string>,",
   "    onCancel: OnCancel,",
   "): Promise<Response> => «",
   "    const controller = new AbortController();",
   "",
   "    const request: RequestInit = «",
   "        headers: new Headers(headers),",
   "        method: options.method,",
   "        body,",
   "        signal: controller.signal,",
   "    »;",
   "",
   "    if (config.WITH_CREDENTIALS) «",
   "        request.credentials = config.CREDENTIALS;",
   "    »",
   "",
   "    onCancel(() => controller.abort());",
   "",
   "    return await fetch(url, request);",
   "»;",
   "",
   "export const getResponseHeader = (response: Response, responseHeader?: string): string " ++
     "| undefined => «",
   "    if (responseHeader) «",
   "        const content = response.headers.get(responseHeader);",
   "        if (isString(content)) «",
   "            return content;",
   "        »",
   "    »",
   "    return undefined;",
   "»;",
   "",
   "export const getResponseBody = async (response: Response): Promise<any> => «",
   "    if (response.status !== 204) «",
   "        try «",
   "            const contentType = response.headers.get('Content-Type');",
   "            if (contentType) «",
   "                const type = contentType.toLowerCase();",
   "                if (type.startsWith('application/json') || type.includes('+json')) «",
   "                    return await response.json();",
   "                »",
   "                return await response.text();",
   "            »",
   "        » catch (error) «",
   "            console.error(error);",
   "        »",
   "    »",
   "    return undefined;",
   "»;",
   "",
   "const isSuccess = (response: Response): boolean => response.ok;",
   "",
   "const getStatus = (response: Response): number => response.status;",
   "",
   "const getStatusText = (response: Response): string => response.statusText;"]

/-- Sending a request with XMLHttpRequest. -/
def xhrSending : String := code [
   "",
   "export const sendRequest = async (",
   "    config: OpenAPIConfig,",
   "    options: ApiRequestOptions,",
   "    url: string,",
   "    body: any,",
   "    headers: Record<string, string>,",
   "    onCancel: OnCancel,",
   "): Promise<XMLHttpRequest> => «",
   "    const xhr = new XMLHttpRequest();",
   "    xhr.open(options.method, url, true);",
   "    xhr.withCredentials = config.WITH_CREDENTIALS;",
   "",
   "    Object.entries(headers).forEach(([key, value]) => «",
   "        xhr.setRequestHeader(key, value);",
   "    »);",
   "",
   "    return new Promise<XMLHttpRequest>((resolve, reject) => «",
   "        xhr.onload = () => resolve(xhr);",
   "        xhr.onabort = () => reject(new Error('Request aborted'));",
   "        xhr.onerror = () => reject(new Error('Network error'));",
   "        xhr.send(body ?? null);",
   "",
   "        onCancel(() => xhr.abort());",
   "    »);",
   "»;",
   "",
   "export const getResponseHeader = (xhr: XMLHttpRequest, responseHeader?: string): string " ++
     "| undefined => «",
   "    if (responseHeader) «",
   "        const content = xhr.getResponseHeader(responseHeader);",
   "        if (isString(content)) «",
   "            return content;",
   "        »",
   "    »",
   "    return undefined;",
   "»;",
   "",
   "export const getResponseBody = (xhr: XMLHttpRequest): any => «",
   "    if (xhr.status !== 204) «",
   "        try «",
   "            const contentType = xhr.getResponseHeader('Content-Type');",
   "            if (contentType) «",
   "                const type = contentType.toLowerCase();",
   "                if (type.startsWith('application/json') || type.includes('+json')) «",
   "                    return JSON.parse(xhr.responseText);",
   "                »",
   "                return xhr.responseText;",
   "            »",
   "        » catch (error) «",
   "            console.error(error);",
   "        »",
   "    »",
   "    return undefined;",
   "»;",
   "",
   "const isSuccess = (xhr: XMLHttpRequest): boolean => xhr.status >= 200 && xhr.status < 300;",
   "",
   "const getStatus = (xhr: XMLHttpRequest): number => xhr.status;",
   "",
   "const getStatusText = (xhr: XMLHttpRequest): string => xhr.statusText;"]

/-- Sending a request with node-fetch. -/
def nodeSending : String := code [
   "",
   "export const sendRequest = async (",
   "    config: OpenAPIConfig,",
   "    options: ApiRequestOptions,",
   "    url: string,",
   "    body: any,",
   "    headers: Record<string, string>,",
   "    onCancel: OnCancel,",
   "): Promise<Response> => «",
   "    const controller = new AbortController();",
   "",
   "    const request: RequestInit = «",
   "        headers: new Headers(headers),",
   "        method: options.method,",
   "        body,",
   "        signal: controller.signal as RequestInit['signal'],",
   "    »;",
   "",
   "    onCancel(() => controller.abort());",
   "",
   "    return await fetch(url, request);",
   "»;",
   "",
   "export const getResponseHeader = (response: Response, responseHeader?: string): string " ++
     "| undefined => «",
   "    if (responseHeader) «",
   "        const content = response.headers.get(responseHeader);",
   "        if (isString(content)) «",
   "            return content;",
   "        »",
   "    »",
   "    return undefined;",
   "»;",
   "",
   "export const getResponseBody = async (response: Response): Promise<any> => «",
   "    if (response.status !== 204) «",
   "        try «",
   "            const contentType = response.headers.get('Content-Type');",
   "            if (contentType) «",
   "                const type = contentType.toLowerCase();",
   "                if (type.startsWith('application/json') || type.includes('+json')) «",
   "                    return await response.json();",
   "                »",
   "                return await response.text();",
   "            »",
   "        » catch (error) «",
   "            console.error(error);",
   "        »",
   "    »",
   "    return undefined;",
   "»;",
   "",
   "const isSuccess = (response: Response): boolean => response.ok;",
   "",
   "const getStatus = (response: Response): number => response.status;",
   "",
   "const getStatusText = (response: Response): string => response.statusText;"]

/-- Sending a request with axios. -/
def axiosSending : String := code [
   "",
   "export const sendRequest = async (",
   "    config: OpenAPIConfig,",
   "    options: ApiRequestOptions,",
   "    url: string,",
   "    body: any,",
   "    headers: Record<string, string>,",
   "    onCancel: OnCancel,",
   "): Promise<AxiosResponse<any>> => «",
   "    const source = axios.CancelToken.source();",
   "",
   "    const requestConfig: AxiosRequestConfig = «",
   "        url,",
   "        headers,",
   "        data: body,",
   "        method: options.method,",
   "        withCredentials: config.WITH_CREDENTIALS,",
   "        cancelToken: source.token,",
   "    »;",
   "",
   "    onCancel(() => source.cancel('The user aborted a request.'));",
   "",
   "    try «",
   "        return await axios.request(requestConfig);",
   "    » catch (error) «",
   "        const axiosError = error as AxiosError<any>;",
   "        if (axiosError.response) «",
   "            return axiosError.response;",
   "        »",
   "        throw error;",
   "    »",
   "»;",
   "",
   "export const getResponseHeader = (response: AxiosResponse<any>, responseHeader?: " ++
     "string): string | undefined => «",
   "    if (responseHeader) «",
   "        const content = response.headers[responseHeader];",
   "        if (isString(content)) «",
   "            return content;",
   "        »",
   "    »",
   "    return undefined;",
   "»;",
   "",
   "export const getResponseBody = (response: AxiosResponse<any>): any => «",
   "    if (response.status !== 204) «",
   "        return response.data;",
   "    »",
   "    return undefined;",
   "»;",
   "",
   "const isSuccess = (response: AxiosResponse<any>): boolean => response.status >= 200 && " ++
     "response.status < 300;",
   "",
   "const getStatus = (response: AxiosResponse<any>): number => response.status;",
   "",
   "const getStatusText = (response: AxiosResponse<any>): string => response.statusText;"]

/-- Sending a request and reading the response. -/
def sending : Transport → String
  | fetch => fetchSending
  | xhr => xhrSending
  | node => nodeSending
  | axios => axiosSending

end Transport

end TypedClient.TypeScript
